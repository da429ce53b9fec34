import MeshlinkNode.Config
import MeshlinkNode.Hostapd
import MeshlinkNode.InternetSharing

/-!
# Bringing the AP up at boot

Before anything is started, `main` asks a provisioner for the phone-facing AP.
A node that cannot have one is to serve without it; what is raised here ends it.
-/

namespace MeshlinkNode

inductive ApExc where
  | python (exc : PyExc)
  | sharing (exc : SharingExc)
  deriving DecidableEq

/-- `load_deployment_config`, by the text in the file or what opening and
decoding it raises; a `ConfError` is a `ValueError`. -/
def loadDeploymentConfig : Except PyExc PyStr → Except PyExc WifiDeploymentConfig
  | .ok content =>
    match parseDeploymentConf (universalNewlines content) with
    | .ok config => .ok config
    | .error _ => .error .valueError
  | .error exc => .error (if exc = .osError then .valueError else exc)

/-- How the setup script turns out: whether it is there, its exit code (`none`
is an `OSError`), and the config that is read back. -/
structure SetupOutcome where
  present : Bool
  runs : Option Int
  conf : Except PyExc PyStr

def HostapdProvisioner.start (self : HostapdProvisioner) (io : SetupOutcome) :
    Except PyExc Bool :=
  if io.present && io.runs = some 0 then self.verifyConsistency io.conf else .ok false

inductive ApProvisioner where
  | hostapd (self : HostapdProvisioner)
  | internetSharing (self : InternetSharing)

/-- What `_provision_ap` finds: the settings, where it runs, the deployment's
file, and what the backends do. -/
structure ApMachine where
  wifiApProvision : PyStr
  apBackend : Option PyStr
  apChannel : Option PyStr
  host : Host
  deployment : Except PyExc PyStr
  setup : SetupOutcome
  plistLib : PlistLib
  sharing : StartOutcome
  disk : Disk

def ApProvisioner.config : ApProvisioner → WifiDeploymentConfig
  | .hostapd self => self.config
  | .internetSharing self => self.config

namespace ApMachine

variable (m : ApMachine)

/-- `MESHLINK_AP_BACKEND`, or the platform's. -/
def backend : PyStr :=
  match m.apBackend with
  | none | some [] => if m.host.darwin then text "internet_sharing" else text "hostapd"
  | some backend => backend

/-- The channel is read when the Internet Sharing backend is imported. -/
def createApProvisioner (config : WifiDeploymentConfig) : Except PyExc ApProvisioner :=
  if m.backend = text "hostapd" then .ok (.hostapd ⟨config⟩)
  else if m.backend = text "internet_sharing" then
    (pyInt (m.apChannel.getD (text "6"))).map fun channel => .internetSharing ⟨config, channel⟩
  else .error .valueError

/-- `provisioner.start()`, and the disk after it. -/
def start : ApProvisioner → Disk × Except ApExc Bool
  | .hostapd self => (m.disk, (self.start m.setup).mapError .python)
  | .internetSharing self =>
    let (disk, up) := self.start m.plistLib m.host m.sharing m.disk
    (disk, up.mapError .sharing)

/-- The provisioner that is stopped on shutdown, and whether the AP is reported
up. -/
def provisionAp : Except ApExc (Option (ApProvisioner × Bool)) := do
  if m.wifiApProvision = text "off" then return none
  if m.wifiApProvision = text "auto" ∧ m.host.darwin = false then return none
  match loadDeploymentConfig m.deployment with
  | .error exc => if exc = .valueError then return none else throw (.python exc)
  | .ok config =>
    let provisioner ← (m.createApProvisioner config).mapError .python
    let up ← (m.start provisioner).2
    return some (provisioner, up)

/-- The node is to bring the AP up itself. -/
def Wanted : Prop :=
  m.wifiApProvision ≠ text "off" ∧ (m.wifiApProvision = text "auto" → m.host.darwin = true)

/-- What `MESHLINK_AP_CHANNEL` says. -/
def ChannelIs (channel : Int) : Prop := pyInt (m.apChannel.getD (text "6")) = .ok channel

/-- `setup_hostapd.sh` is there and goes through. -/
def SetUp : Prop := m.setup.present = true ∧ m.setup.runs = some 0

/-- The settings and failures that the node does not survive. -/
inductive Aborts (config : WifiDeploymentConfig) : Prop where
  | backend (other : m.backend ≠ text "hostapd" ∧ m.backend ≠ text "internet_sharing")
  | conf {exc : PyExc} (hostapd : m.backend = text "hostapd") (ran : m.SetUp)
      (reads : m.setup.conf = .error exc) (undecodable : exc ≠ .osError)
  | channel (sharing : m.backend = text "internet_sharing")
      (unread : ∀ channel, ¬ m.ChannelIs channel)
  | sharing {channel : Int} (sharing : m.backend = text "internet_sharing")
      (here : m.ChannelIs channel)
      (fails : (InternetSharing.mk config channel).Fails m.plistLib m.host m.sharing m.disk)

/-- What it takes for the AP to be up. -/
inductive Up (config : WifiDeploymentConfig) : Prop where
  | hostapd (hostapd : m.backend = text "hostapd") (ran : m.SetUp)
      (reads : configuredSsid m.setup.conf = .ok (some config.ssid))
  | sharing {channel : Int} (sharing : m.backend = text "internet_sharing")
      (here : m.ChannelIs channel) (able : m.host.darwin = true ∧ m.host.root = true)
      {content : Bytes}
      (installed :
        (InternetSharing.mk config channel).Installed m.plistLib m.disk m.sharing content)
      (launched : m.sharing.launches = .ok 0 ∧ m.sharing.rereads = true)
      (names : InternetSharing.Names m.plistLib content config.ssid)

variable {m}

/-- Past the setup script, `start` is the self-check. -/
theorem hostapd_start (m : ApMachine) (config : WifiDeploymentConfig) :
    (m.SetUp ∧ (HostapdProvisioner.mk config).start m.setup =
      (HostapdProvisioner.mk config).verifyConsistency m.setup.conf) ∨
    (¬ m.SetUp ∧ (HostapdProvisioner.mk config).start m.setup = .ok false) := by
  unfold HostapdProvisioner.start
  by_cases ran : m.SetUp
  · exact .inl ⟨ran, if_pos (by simpa [SetUp] using ran)⟩
  · exact .inr ⟨ran, if_neg (by simpa [SetUp] using ran)⟩

theorem hostapd_raises_iff {config : WifiDeploymentConfig} :
    (∃ exc, (HostapdProvisioner.mk config).start m.setup = .error exc) ↔
      m.SetUp ∧ ∃ exc, m.setup.conf = .error exc ∧ exc ≠ .osError := by
  obtain ⟨ran, started⟩ | ⟨stays, started⟩ := m.hostapd_start config
  · rw [started, HostapdProvisioner.verifyConsistency, WifiDeploymentConfig.verifyConsistency]
    cases m.setup.conf with
    | ok content =>
      simp only [configuredSsid, bind, Except.bind]
      split <;> simp [pure, Except.pure]
    | error exc =>
      by_cases os : exc = .osError
      · simp [configuredSsid, os, bind, Except.bind, pure, Except.pure]
      · simp [configuredSsid, os, ran, bind, Except.bind]
  · rw [started]
    exact iff_of_false (by simp) fun both => stays both.1

theorem hostapd_up_iff {config : WifiDeploymentConfig} :
    (HostapdProvisioner.mk config).start m.setup = .ok true ↔
      m.SetUp ∧ configuredSsid m.setup.conf = .ok (some config.ssid) := by
  obtain ⟨ran, started⟩ | ⟨stays, started⟩ := m.hostapd_start config
  · rw [started, HostapdProvisioner.verifyConsistency, WifiDeploymentConfig.verifyConsistency]
    cases configuredSsid m.setup.conf with
    | error exc => simp [bind, Except.bind]
    | ok found =>
      cases found with
      | none => simp [bind, Except.bind, pure, Except.pure]
      | some ssid => simp [ran, bind, Except.bind, pure, Except.pure]
  · rw [started]
    exact iff_of_false (by simp) fun both => stays both.1

/-- **Which backend**: hostapd, Internet Sharing with a channel, or an exception. -/
theorem create_cases (m : ApMachine) (config : WifiDeploymentConfig) :
    (m.backend = text "hostapd" ∧ m.createApProvisioner config = .ok (.hostapd ⟨config⟩)) ∨
    (∃ channel, m.backend = text "internet_sharing" ∧ m.ChannelIs channel ∧
      m.createApProvisioner config = .ok (.internetSharing ⟨config, channel⟩)) ∨
    ∃ exc, m.createApProvisioner config = .error exc ∧
      (m.backend = text "internet_sharing" ∧ (∀ channel, ¬ m.ChannelIs channel) ∨
        m.backend ≠ text "hostapd" ∧ m.backend ≠ text "internet_sharing") := by
  unfold createApProvisioner
  by_cases hostapd : m.backend = text "hostapd"
  · exact .inl ⟨hostapd, if_pos hostapd⟩
  · rw [if_neg hostapd]
    by_cases sharing : m.backend = text "internet_sharing"
    · rw [if_pos sharing]
      unfold ChannelIs
      cases here : pyInt (m.apChannel.getD (text "6")) with
      | ok channel => exact .inr (.inl ⟨channel, sharing, rfl, rfl⟩)
      | error exc => exact .inr (.inr ⟨exc, rfl, .inl ⟨sharing, by simp⟩⟩)
    · rw [if_neg sharing]
      exact .inr (.inr ⟨_, rfl, .inr ⟨hostapd, sharing⟩⟩)

theorem backends_differ : text "hostapd" ≠ text "internet_sharing" := by decide

/-- Past the file, what is raised is what the backend raises. -/
theorem provision_loaded {config : WifiDeploymentConfig} (wanted : m.Wanted)
    (loaded : loadDeploymentConfig m.deployment = .ok config) :
    m.provisionAp = (m.createApProvisioner config).mapError .python >>= fun provisioner =>
      (m.start provisioner).2.map fun up => some (provisioner, up) := by
  have unforced : ¬ (m.wifiApProvision = text "auto" ∧ m.host.darwin = false) := by
    rintro ⟨auto, elsewhere⟩
    rw [wanted.2 auto] at elsewhere
    cases elsewhere
  unfold provisionAp
  simp only [if_neg wanted.1, if_neg unforced, loaded]
  cases m.createApProvisioner config with
  | error exc => rfl
  | ok provisioner =>
    simp only [Except.mapError, bind, Except.bind]
    cases (m.start provisioner).2 <;> rfl

theorem raises_iff {ε ε' α β : Type} {f : ε → ε'} {g : α → β} {result : Except ε α} :
    (∃ exc, (result.mapError f).map g = .error exc) ↔ ∃ exc, result = .error exc := by
  cases result <;> simp [Except.mapError, Except.map]

theorem returns_iff {ε ε' α β : Type} {f : ε → ε'} {g : α → β} {result : Except ε α} {b : β} :
    (result.mapError f).map g = .ok b ↔ ∃ a, result = .ok a ∧ g a = b := by
  cases result <;> simp [Except.mapError, Except.map]

theorem raises_iff_aborts {config : WifiDeploymentConfig} (wanted : m.Wanted)
    (loaded : loadDeploymentConfig m.deployment = .ok config) :
    (∃ exc, m.provisionAp = .error exc) ↔ m.Aborts config := by
  rw [provision_loaded wanted loaded]
  obtain ⟨hostapd, created⟩ | ⟨channel, sharing, here, created⟩ | ⟨exc, created, why⟩ :=
    create_cases m config
  · rw [created]
    refine raises_iff.trans (hostapd_raises_iff.trans ⟨?_, ?_⟩)
    · rintro ⟨ran, exc, reads, undecodable⟩
      exact .conf hostapd ran reads undecodable
    · intro aborts
      cases aborts with
      | backend other => exact absurd hostapd other.1
      | conf _ ran reads undecodable => exact ⟨ran, _, reads, undecodable⟩
      | channel sharing => exact absurd (hostapd.symm.trans sharing) backends_differ
      | sharing sharing => exact absurd (hostapd.symm.trans sharing) backends_differ
  · rw [created]
    refine raises_iff.trans (InternetSharing.start_raises_iff.trans ⟨?_, ?_⟩)
    · exact .sharing sharing here
    · intro aborts
      cases aborts with
      | backend other => exact absurd sharing other.2
      | conf hostapd => exact absurd (hostapd.symm.trans sharing) backends_differ
      | channel _ unread => exact absurd here (unread channel)
      | sharing _ here' fails =>
        rw [ChannelIs, here] at here'
        cases here'
        exact fails
  · rw [created]
    refine iff_of_true ⟨_, rfl⟩ ?_
    obtain ⟨sharing, unread⟩ | other := why
    · exact .channel sharing unread
    · exact .backend other

theorem returns_iff_up {config : WifiDeploymentConfig} (wanted : m.Wanted)
    (loaded : loadDeploymentConfig m.deployment = .ok config) :
    (∃ provisioner, m.provisionAp = .ok (some (provisioner, true))) ↔ m.Up config := by
  rw [provision_loaded wanted loaded]
  obtain ⟨hostapd, created⟩ | ⟨channel, sharing, here, created⟩ | ⟨exc, created, why⟩ :=
    create_cases m config
  · rw [created]
    constructor
    · rintro ⟨provisioner, returned⟩
      obtain ⟨up', started, same⟩ := returns_iff.mp returned
      cases same
      obtain ⟨ran, reads⟩ := hostapd_up_iff.mp started
      exact .hostapd hostapd ran reads
    · intro comes
      cases comes with
      | hostapd _ ran reads =>
        exact ⟨_, returns_iff.mpr ⟨true, hostapd_up_iff.mpr ⟨ran, reads⟩, rfl⟩⟩
      | sharing sharing => exact absurd (hostapd.symm.trans sharing) backends_differ
  · rw [created]
    constructor
    · rintro ⟨provisioner, returned⟩
      obtain ⟨up', started, same⟩ := returns_iff.mp returned
      cases same
      obtain ⟨darwin, root, content, installed, launched, rereads, names⟩ :=
        InternetSharing.start_up_iff.mp started
      exact .sharing sharing here ⟨darwin, root⟩ installed ⟨launched, rereads⟩ names
    · intro comes
      cases comes with
      | hostapd hostapd => exact absurd (hostapd.symm.trans sharing) backends_differ
      | sharing _ here' able installed launched names =>
        rw [ChannelIs, here] at here'
        cases here'
        have started := InternetSharing.start_up_iff.mpr
          ⟨able.1, able.2, _, installed, launched.1, launched.2, names⟩
        exact ⟨_, returns_iff.mpr ⟨true, started, rfl⟩⟩
  · rw [created]
    refine iff_of_false ?_ ?_
    · rintro ⟨provisioner, returned⟩
      cases returned
    · intro comes
      obtain ⟨sharing, unread⟩ | other := why
      · cases comes with
        | hostapd hostapd => exact backends_differ (hostapd.symm.trans sharing)
        | sharing _ here => exact unread _ here
      · cases comes with
        | hostapd hostapd => exact other.1 hostapd
        | sharing sharing => exact other.2 sharing

/-- A provisioner keeps the config it was made with. -/
theorem create_config {config : WifiDeploymentConfig} {provisioner : ApProvisioner}
    (created : m.createApProvisioner config = .ok provisioner) : provisioner.config = config := by
  obtain ⟨-, made⟩ | ⟨channel, -, -, made⟩ | ⟨exc, made, -⟩ := create_cases m config
  · cases made.symm.trans created
    rfl
  · cases made.symm.trans created
    rfl
  · cases made.symm.trans created

theorem load_checked {file : Except PyExc PyStr} {config : WifiDeploymentConfig}
    (loaded : loadDeploymentConfig file = .ok config) : config.Checked := by
  cases file with
  | error exc => cases loaded
  | ok content =>
    cases accepted : parseDeploymentConf (universalNewlines content) with
    | error exc =>
      simp only [loadDeploymentConfig, accepted] at loaded
      cases loaded
    | ok found =>
      simp only [loadDeploymentConfig, accepted] at loaded
      cases loaded
      exact (parse_accepted accepted).1

/-- What is not a `ValueError` here comes from reading the file. -/
theorem load_error {file : Except PyExc PyStr} {exc : PyExc}
    (failed : loadDeploymentConfig file = .error exc) :
    (∃ raised, file = .error raised ∧ raised ≠ .osError ∧ raised ≠ .valueError) ↔
      exc ≠ .valueError := by
  cases file with
  | error raised =>
    simp only [loadDeploymentConfig, Except.error.injEq] at failed
    by_cases os : raised = .osError
    · rw [if_pos os] at failed
      simp [os, ← failed]
    · rw [if_neg os] at failed
      subst failed
      simp [os]
  | ok content =>
    cases read : parseDeploymentConf (universalNewlines content) with
    | error broken =>
      simp only [loadDeploymentConfig, read, Except.error.injEq] at failed
      simp [← failed]
    | ok config =>
      simp only [loadDeploymentConfig, read] at failed
      cases failed

/-- **Before a backend is chosen**: the node leaves the AP alone, fails to load
the deployment, or goes on. -/
theorem provision_cases (m : ApMachine) :
    (¬ m.Wanted ∧ m.provisionAp = .ok none) ∨
    (m.Wanted ∧ ∃ exc, loadDeploymentConfig m.deployment = .error exc ∧
      m.provisionAp = if exc = .valueError then .ok none else .error (.python exc)) ∨
    m.Wanted ∧ ∃ config, loadDeploymentConfig m.deployment = .ok config := by
  by_cases off : m.wifiApProvision = text "off"
  · refine .inl ⟨fun wanted => wanted.1 off, ?_⟩
    rw [provisionAp, if_pos off]
    rfl
  by_cases elsewhere : m.wifiApProvision = text "auto" ∧ m.host.darwin = false
  · refine .inl ⟨fun wanted => ?_, ?_⟩
    · have darwin := wanted.2 elsewhere.1
      rw [elsewhere.2] at darwin
      cases darwin
    · simp only [provisionAp, if_neg off, if_pos elsewhere]
      rfl
  have wanted : m.Wanted := by
    refine ⟨off, fun auto => ?_⟩
    simpa [auto] using elsewhere
  right
  cases loaded : loadDeploymentConfig m.deployment with
  | ok config => exact .inr ⟨wanted, config, rfl⟩
  | error exc =>
    refine .inl ⟨wanted, exc, rfl, ?_⟩
    simp only [provisionAp, if_neg off, if_neg elsewhere, loaded]
    split <;> rfl

/-- Whoever is started has the identity that was loaded. -/
theorem config_loaded {config : WifiDeploymentConfig} {provisioner : ApProvisioner} {up : Bool}
    (wanted : m.Wanted) (loaded : loadDeploymentConfig m.deployment = .ok config)
    (returned : m.provisionAp = .ok (some (provisioner, up))) : provisioner.config = config := by
  rw [provision_loaded wanted loaded] at returned
  obtain ⟨made, created, started⟩ := bind_eq_ok.mp returned
  obtain ⟨verdict, -, same⟩ := map_ok started
  cases same
  cases tried : m.createApProvisioner config with
  | error exc =>
    rw [tried] at created
    cases created
  | ok other =>
    rw [tried] at created
    cases created
    exact create_config tried

/-- **Bringing the AP up.** For all that it is never to abort the node, it does:
exactly if the node is to bring the AP up, has a valid identity for it, and the
backend's name is unknown, the channel is no integer, the installed config cannot
be decoded, or Internet Sharing raises. -/
theorem provision_verdict (m : ApMachine) :
    ((∃ exc, m.provisionAp = .error exc) ↔ m.Wanted ∧
      ((∃ exc, m.deployment = .error exc ∧ exc ≠ .osError ∧ exc ≠ .valueError) ∨
        ∃ config, loadDeploymentConfig m.deployment = .ok config ∧ m.Aborts config)) ∧
    ((∃ provisioner, m.provisionAp = .ok (some (provisioner, true))) ↔ m.Wanted ∧
      ∃ config, loadDeploymentConfig m.deployment = .ok config ∧ m.Up config) ∧
    ∀ provisioner up, m.provisionAp = .ok (some (provisioner, up)) →
      provisioner.config.Checked ∧
        loadDeploymentConfig m.deployment = .ok provisioner.config := by
  obtain ⟨unwanted, leaves⟩ | ⟨wanted, exc, failed, without⟩ | ⟨wanted, config, loaded⟩ :=
    m.provision_cases
  · rw [leaves]
    exact ⟨iff_of_false (by simp) fun both => unwanted both.1,
      iff_of_false (by simp) fun both => unwanted both.1, by simp⟩
  · have strange := load_error failed
    have unloaded : ∀ config, loadDeploymentConfig m.deployment ≠ .ok config := by
      intro config loaded
      rw [failed] at loaded
      cases loaded
    rw [without]
    by_cases plain : exc = .valueError
    · rw [if_pos plain]
      refine ⟨iff_of_false (by simp) ?_, iff_of_false (by simp) ?_, by simp⟩
      · rintro ⟨-, raised | ⟨config, loaded, -⟩⟩
        · exact strange.mp raised plain
        · exact unloaded config loaded
      · rintro ⟨-, config, loaded, -⟩
        exact unloaded config loaded
    · rw [if_neg plain]
      refine ⟨iff_of_true ⟨_, rfl⟩ ⟨wanted, .inl (strange.mpr plain)⟩, iff_of_false (by simp) ?_,
        by simp⟩
      rintro ⟨-, config, loaded, -⟩
      exact unloaded config loaded
  · have raises := raises_iff_aborts wanted loaded
    have returns := returns_iff_up wanted loaded
    refine ⟨raises.trans ⟨fun aborts => ⟨wanted, .inr ⟨config, loaded, aborts⟩⟩, ?_⟩,
      returns.trans ⟨fun up => ⟨wanted, config, loaded, up⟩, ?_⟩, ?_⟩
    · rintro ⟨-, ⟨exc, broken, -⟩ | ⟨other, again, aborts⟩⟩
      · rw [broken] at loaded
        cases loaded
      · rw [loaded] at again
        cases again
        exact aborts
    · rintro ⟨-, other, again, up⟩
      rw [loaded] at again
      cases again
      exact up
    · intro provisioner up returned
      rw [config_loaded wanted loaded returned]
      exact ⟨load_checked loaded, loaded⟩

end ApMachine

namespace Sample

/-- A Mac with the venue's identity. -/
def macMachine : ApMachine :=
  ⟨text "auto", none, none, ⟨true, true⟩, .ok venueConf, ⟨false, none, .error .osError⟩, plistLib,
    allWell, sharedDisk⟩

example : ∃ provisioner, macMachine.provisionAp = .ok (some (provisioner, true)) := ⟨_, rfl⟩

/-- A backend nobody knows ends the node. -/
example : { macMachine with apBackend := some (text "bogus") }.provisionAp =
    .error (.python .valueError) := by rfl

end Sample

end MeshlinkNode
