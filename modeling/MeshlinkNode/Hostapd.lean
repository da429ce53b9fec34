import MeshlinkNode.Deployment
import Mathlib.Tactic.IntervalCases

/-!
# The hostapd config

The deployment's identity goes into a template, and the node reads its SSID back
from the file for a self-check. A line of the file is what `splitlines` makes
one, or what stands between two newlines.
-/

namespace MeshlinkNode

open Lines

/-- `text.split("\n")`. -/
def splitNewlines (s : PyStr) : List PyStr := s.splitOn 10

/-! ## The file -/

/-- The lines of the f-string. -/
def hostapdLines (config : WifiDeploymentConfig) (iface : PyStr) (channel : Int) : List PyStr :=
  [text "# Generated by node/wifi_ap/hostapd_config.py — do not hand-edit.",
    text "# SSID/passphrase come from the deployment-wide config; see",
    text "# docs/wifi-ap-deployment.md.",
    text "interface=" ++ iface,
    text "driver=nl80211",
    [],
    text "ssid=" ++ config.ssid,
    text "hw_mode=g",
    text "channel=" ++ intRepr channel,
    text "ieee80211n=1",
    text "wmm_enabled=1",
    [],
    text "auth_algs=1",
    text "wpa=2",
    text "wpa_key_mgmt=WPA-PSK",
    text "rsn_pairwise=CCMP",
    text "wpa_passphrase=" ++ config.passphrase,
    [],
    text "# Roaming assists (WiFi Mesh Add-On §2.4): 802.11k neighbor reports and",
    text "# 802.11v BSS transition hints help phones hand off between nodes sooner.",
    text "# 802.11r fast transition is deferred — it needs cross-node key material.",
    text "rrm_neighbor_report=1",
    text "bss_transition=1"]

/-- `render_hostapd_conf`, or the text of its `ValueError`. -/
def renderHostapdConf (config : WifiDeploymentConfig) (iface : PyStr) (channel : Int) :
    Except PyStr PyStr :=
  if 1 ≤ channel ∧ channel ≤ 13 then .ok (unlines 10 (hostapdLines config iface channel))
  else .error (text "AP channel must be 1-13 (2.4 GHz), got " ++ intRepr channel)

/-- What `read_text` makes of `\r\n` and `\r`. -/
def universalNewlines : PyStr → PyStr
  | [] => []
  | 13 :: 10 :: rest => 10 :: universalNewlines rest
  | c :: rest => (if c = 13 then 10 else c) :: universalNewlines rest

/-- `configured_ssid`, by the text in the file or what opening and decoding it
raises. -/
def configuredSsid : Except PyExc PyStr → Except PyExc (Option PyStr)
  | .ok content =>
    .ok <| (splitlines (universalNewlines content)).findSome? fun line =>
      if text "ssid=" <+: line then some (line.drop (text "ssid=").length) else none
  | .error exc => if exc = .osError then .ok none else .error exc

structure HostapdProvisioner where
  config : WifiDeploymentConfig

def HostapdProvisioner.verifyConsistency (provisioner : HostapdProvisioner)
    (file : Except PyExc PyStr) : Except PyExc Bool :=
  provisioner.config.verifyConsistency (configuredSsid file)

/-! ## Lines that are not the identity's -/

/-- The lines around the SSID and the passphrase. -/
structure Template where
  before : List PyStr
  between : List PyStr
  after : List PyStr
  free : ∀ line ∈ before ++ between ++ after,
    ¬ text "ssid=" <+: line ∧ ¬ text "wpa_passphrase=" <+: line

namespace Template

def fill (template : Template) (config : WifiDeploymentConfig) : List PyStr :=
  template.before ++ [text "ssid=" ++ config.ssid] ++ template.between ++
    [text "wpa_passphrase=" ++ config.passphrase] ++ template.after

variable (template : Template) (config : WifiDeploymentConfig)

theorem filter_fill {start : PyStr}
    (free : ∀ line ∈ template.before ++ template.between ++ template.after, ¬ start <+: line) :
    (template.fill config).filter (start <+: ·) =
      [text "ssid=" ++ config.ssid, text "wpa_passphrase=" ++ config.passphrase].filter
        (start <+: ·) := by
  have none_of : ∀ lines : List PyStr, (∀ line ∈ lines, ¬ start <+: line) →
      lines.filter (start <+: ·) = [] := by
    intro lines none
    simpa using none
  simp only [List.forall_mem_append] at free
  obtain ⟨⟨before, between⟩, after⟩ := free
  simp only [fill, List.filter_append, none_of _ before, none_of _ between, none_of _ after,
    List.nil_append, List.append_nil]
  rw [← List.filter_append, List.singleton_append]

theorem filter_ssid :
    (template.fill config).filter (text "ssid=" <+: ·) = [text "ssid=" ++ config.ssid] := by
  have other : ¬ text "ssid=" <+: text "wpa_passphrase=" ++ config.passphrase := nofun
  rw [template.filter_fill config fun line mem => (template.free line mem).1]
  simp [other]

theorem filter_passphrase :
    (template.fill config).filter (text "wpa_passphrase=" <+: ·) =
      [text "wpa_passphrase=" ++ config.passphrase] := by
  have other : ¬ text "wpa_passphrase=" <+: text "ssid=" ++ config.ssid := nofun
  rw [template.filter_fill config fun line mem => (template.free line mem).2]
  simp [other]

end Template

/-- The lines of the file that come from the interface and the channel alone. -/
def hostapdTemplate (iface : PyStr) (channel : Int) : Template where
  before := (hostapdLines ⟨[], []⟩ iface channel).take 6
  between := ((hostapdLines ⟨[], []⟩ iface channel).drop 7).take 9
  after := (hostapdLines ⟨[], []⟩ iface channel).drop 17
  free := by
    simp only [hostapdLines, List.take, List.drop, List.cons_append, List.nil_append,
      List.forall_mem_cons]
    repeat' apply And.intro
    -- the interface's line and the channel's are open, the others closed
    all_goals first | decide +kernel | nofun

theorem fill_hostapdTemplate (config : WifiDeploymentConfig) (iface : PyStr) (channel : Int) :
    (hostapdTemplate iface channel).fill config = hostapdLines config iface channel := rfl

/-! ## Reading it back -/

section

variable {config : WifiDeploymentConfig} {iface : PyStr} {channel : Int}

theorem intRepr_oneLine (range : 1 ≤ channel ∧ channel ≤ 13) : OneLine (intRepr channel) := by
  obtain ⟨low, high⟩ := range
  interval_cases channel <;> decide

/-- No line of the file breaks. -/
theorem hostapdLines_oneLine (ssid : OneLine config.ssid) (passphrase : OneLine config.passphrase)
    (unbroken : OneLine iface) (range : 1 ≤ channel ∧ channel ≤ 13) :
    ∀ line ∈ hostapdLines config iface channel, OneLine line := by
  simp only [hostapdLines, List.forall_mem_cons, unbroken_append]
  refine ⟨?_, ?_, ?_, ⟨?_, unbroken⟩, ?_, ?_, ⟨?_, ssid⟩, ?_, ⟨?_, intRepr_oneLine range⟩,
    ?_, ?_, ?_, ?_, ?_, ?_, ?_, ⟨?_, passphrase⟩, ?_, ?_, ?_, ?_, ?_, ?_, ?_⟩
  all_goals decide +kernel

theorem universalNewlines_of_not_mem {s : PyStr} (plain : 13 ∉ s) : universalNewlines s = s := by
  induction s with
  | nil => rfl
  | cons c s ih =>
    simp only [List.mem_cons, not_or] at plain
    obtain ⟨here, later⟩ := plain
    have other : c ≠ 13 := Ne.symm here
    rw [universalNewlines, if_neg other, ih later]
    rintro rest rfl
    exact absurd rfl other

/-- `\r` is a line break, and `\n`, which closes the lines, is not `\r`. -/
theorem universalNewlines_unlines {lines : List PyStr} (whole : ∀ line ∈ lines, OneLine line) :
    universalNewlines (unlines 10 lines) = unlines 10 lines := by
  refine universalNewlines_of_not_mem fun mem => ?_
  obtain ⟨line, held, mem⟩ := List.mem_flatMap.mp mem
  rcases List.mem_append.mp mem with inside | closing
  · exact absurd (whole line held 13 inside) (by decide)
  · exact absurd (List.mem_singleton.mp closing) (by decide)

/-- Reading stops at the SSID, since no line above it looks like one. -/
theorem configuredSsid_of_lines {file : PyStr} (translated : universalNewlines file = file)
    {template : Template} (lines : splitlines file = template.fill config) :
    configuredSsid (.ok file) = .ok (some config.ssid) := by
  have above : template.before.findSome? (fun line =>
      if text "ssid=" <+: line then some (line.drop (text "ssid=").length) else none) = none := by
    refine List.findSome?_eq_none_iff.mpr fun line mem => if_neg ?_
    exact (template.free line (by simp [mem])).1
  simp only [configuredSsid, translated, lines, Template.fill, List.append_assoc]
  rw [List.findSome?_append, above]
  simp

/-- A line that breaks nowhere holds no newline. -/
theorem splitNewlines_unlines {lines : List PyStr} (whole : ∀ line ∈ lines, OneLine line) :
    splitNewlines (unlines 10 lines) = lines ++ [[]] := by
  refine splitOn_unlines 10 fun line held mem => ?_
  exact absurd (whole line held 10 mem) (by decide)

end

/-- **The identity survives.** Around the SSID and the passphrase the file has the
same lines whatever the deployment's config, and none of them is like either; what
the node reads back is the SSID it was given. -/
theorem identity_rendered {iface : PyStr} (unbroken : OneLine iface) {channel : Int}
    (range : 1 ≤ channel ∧ channel ≤ 13) :
    ∃ template : Template, ∀ conf config, parseDeploymentConf conf = .ok config →
      ∃ file, renderHostapdConf config iface channel = .ok file ∧
        configuredSsid (.ok file) = .ok (some config.ssid) ∧
        (⟨config⟩ : HostapdProvisioner).verifyConsistency (.ok file) = .ok true ∧
        splitlines file = template.fill config ∧
        splitNewlines file = template.fill config ++ [[]] ∧
        ∀ split ∈ [splitlines, splitNewlines],
          (split file).filter (text "ssid=" <+: ·) = [text "ssid=" ++ config.ssid] ∧
          (split file).filter (text "wpa_passphrase=" <+: ·) =
            [text "wpa_passphrase=" ++ config.passphrase] := by
  refine ⟨hostapdTemplate iface channel, fun conf config accepted => ?_⟩
  obtain ⟨-, ssid, passphrase⟩ := parse_accepted accepted
  have whole := hostapdLines_oneLine ssid passphrase unbroken range
  have broken : splitlines (unlines 10 (hostapdLines config iface channel)) =
      (hostapdTemplate iface channel).fill config := by
    rw [fill_hostapdTemplate]
    exact splitLines_unlines newline_stops whole
  have cut : splitNewlines (unlines 10 (hostapdLines config iface channel)) =
      (hostapdTemplate iface channel).fill config ++ [[]] := by
    rw [fill_hostapdTemplate]
    exact splitNewlines_unlines whole
  have read := configuredSsid_of_lines (universalNewlines_unlines whole) broken
  refine ⟨_, if_pos range, read, ?_, broken, cut, ?_⟩
  · simp [HostapdProvisioner.verifyConsistency, WifiDeploymentConfig.verifyConsistency, read, bind,
      Except.bind, pure, Except.pure]
  · intro split either
    rcases List.mem_pair.mp either with rfl | rfl
    · rw [broken]
      exact ⟨Template.filter_ssid _ config, Template.filter_passphrase _ config⟩
    · rw [cut, List.filter_append, List.filter_append, Template.filter_ssid,
        Template.filter_passphrase]
      exact ⟨rfl, rfl⟩

namespace Sample

def venueConf : PyStr :=
  text "# MeshLink deployment-wide WiFi identity\nssid=MeshLink-Network\n" ++
    text "passphrase=venue-secret-2026\n"

def venueConfig : WifiDeploymentConfig := ⟨text "MeshLink-Network", text "venue-secret-2026"⟩

theorem identity_rendered_venue :
    ∃ template : Template, ∃ file, renderHostapdConf venueConfig (text "wlan0") 6 = .ok file ∧
      configuredSsid (.ok file) = .ok (some (text "MeshLink-Network")) ∧
      splitlines file = template.fill venueConfig := by
  have unbroken : OneLine (text "wlan0") := by decide
  obtain ⟨template, all⟩ := identity_rendered unbroken (show (1 : Int) ≤ 6 ∧ 6 ≤ 13 by decide)
  have accepted : parseDeploymentConf venueConf = .ok venueConfig := by rfl
  obtain ⟨file, rendered, read, -, lines, -⟩ := all venueConf venueConfig accepted
  exact ⟨template, file, rendered, read, lines⟩

end Sample

end MeshlinkNode
