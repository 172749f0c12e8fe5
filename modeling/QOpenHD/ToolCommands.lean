/-
QOpenHD/ToolCommands.lean

The commands of `openhd_mavlink_tool` (`openhd_mavlink_tool.cpp`): what a command line makes
the tool send.

A handler reads its options, each into a variable of its own, and then sends one message for
each variable that is set, in an order of its own and to one unit after the other.  Only
`handle_set_wifi` still checks something after it has sent something.

* **`half_done_iff`** — the command lines that fail although everything was sent, and after
  something was.
-/
import QOpenHD.Options
import QOpenHD.ParamCodec
import QOpenHD.ToolEndpoint
import QOpenHD.XParamBlocking

namespace QOpenHD

namespace Tool

/-! ### Sending -/

inductive Command
  | initiateChannelAnalyze
  | initiateChannelSearch
  deriving DecidableEq

inductive Message
  | paramExtSet (payload : ParamExtSet)
  /-- The parameters are the floats of these integers. -/
  | commandLong (target : Target) (command : Command) (param1 param2 : ℤ)

/-- `send_param_set` -/
def paramSet (target : Target) (name value : Word) (type : UInt8) : Message :=
  .paramExtSet (buildParamExtSet target name value type)

/-- What has been sent, and `success`. -/
structure Sending where
  sent : List Message := []
  success : Bool := true

/-- `net` tells which calls of `sendto` succeed. -/
def Sending.send (net : ℕ → Bool) (s : Sending) (m : Message) : Sending :=
  ⟨s.sent ++ [m], s.success && net s.sent.length⟩

def Sending.sendAll (net : ℕ → Bool) (s : Sending) (ms : List Message) : Sending :=
  ms.foldl (Sending.send net) s

/-- What a handler leaves behind: the messages, its line on the console and the exit code. -/
structure Result where
  sent : List Message
  text : Word
  code : ℤ

def Sending.result (s : Sending) (done failed : Word) : Result :=
  if s.success then ⟨s.sent, done, 0⟩ else ⟨s.sent, failed, 1⟩

def Sending.refused (s : Sending) (text : Word) : Result := ⟨s.sent, text, 1⟩

/-! ### Options -/

inductive Arg
  | text (value : Word)
  | number (value : ℤ)
  | flag

/-- Why options are not read to the end. -/
inductive Stop
  | exception (e : Exception)
  /-- `return 1` -/
  | refused (text : Word)

abbrev Kind := Options.Kind Word Arg Stop

abbrev Table := Options.Table Word Arg Stop

abbrev Vars := Options.Vars Word Arg

def textValue : Kind := .value fun value => .ok (.text value)

def numberValue : Kind := .value fun value =>
  match stoi value with
  | .ok n => .ok (.number n)
  | .error e => .error (.exception e)

def noValue : Kind := .flag .flag

def parseBoolFlag (value : Word) : Option Word :=
  if value = ascii "on" ∨ value = ascii "enable" ∨ value = ascii "1" ∨ value = ascii "yes" ∨
      value = ascii "true" then
    some (ascii "1")
  else if value = ascii "off" ∨ value = ascii "disable" ∨ value = ascii "0" ∨ value = ascii "no" ∨
      value = ascii "false" then
    some (ascii "0")
  else none

def boolValue (option : Word) : Kind := .value fun value =>
  match parseBoolFlag value with
  | some text => .ok (.text text)
  | none => .error (.refused (ascii "Invalid value for " ++ option ++ ascii ", expected on/off"))

/-- The variable of an option with a text. -/
def text (vars : Vars) (option : Word) : Option Word :=
  match vars option with
  | some (.text value) => some value
  | _ => none

/-- That of an option with a number, which has an initial value. -/
def number (vars : Vars) (option : Word) (initial : ℤ) : ℤ :=
  match vars option with
  | some (.number value) => value
  | _ => initial

def isGiven (vars : Vars) (option : Word) : Bool := (vars option).isSome

/-- A handler reads its options and acts on them. -/
def readOptions (table : Table) (act : Vars → Result) (argv : List Word) :
    Except Exception Result :=
  match Options.read table (fun _ => none) argv.tail with
  | .ok vars => .ok (act vars)
  | .error (.exception e) => .error e
  | .error (.refused text) => .ok (Sending.refused {} text)

/-- A parameter that an option sets. -/
structure Row where
  option : Word
  paramId : Word
  type : UInt8

def Row.message? (vars : Vars) (target : Target) (row : Row) : Option Message :=
  (text vars row.option).map fun value => paramSet target row.paramId value row.type

/-- The parameters that are set, for one unit after the other. -/
def paramSets (vars : Vars) (targets : List Target) (rows : Target → List Row) : List Message :=
  targets.flatMap fun target => (rows target).filterMap (Row.message? vars target)

/-! ### The handlers -/

def MAV_COMP_ID_CAMERA : UInt8 := 100

def MAV_PARAM_EXT_TYPE_REAL32 : UInt8 := 9

def defaultLinkTargets (mirrorGround : Bool) : List Target :=
  if mirrorGround then [⟨101, MAV_COMP_ID_ONBOARD_COMPUTER⟩, ⟨100, MAV_COMP_ID_ONBOARD_COMPUTER⟩]
  else [⟨101, MAV_COMP_ID_ONBOARD_COMPUTER⟩]

def parseTarget (targetName : Word) : Except Word Target :=
  if targetName = ascii "air" then .ok ⟨101, MAV_COMP_ID_ONBOARD_COMPUTER⟩
  else if targetName = ascii "ground" then .ok ⟨100, MAV_COMP_ID_ONBOARD_COMPUTER⟩
  else .error (ascii "target must be air or ground")

def scanOptions : Table :=
  [(ascii "--bands", numberValue), (ascii "--widths", numberValue), (ascii "--search", noValue)]

def scanAct (net : ℕ → Bool) (vars : Vars) : Result :=
  let bands := number vars (ascii "--bands") (-1)
  let widths := number vars (ascii "--widths") 0
  let search := isGiven vars (ascii "--search")
  if bands < 0 then Sending.refused {} (ascii "scan requires --bands <mask>")
  else
    let target : Target := ⟨100, MAV_COMP_ID_ONBOARD_COMPUTER⟩
    let m := if search then .commandLong target .initiateChannelSearch bands widths
      else .commandLong target .initiateChannelAnalyze bands 0
    (Sending.send net {} m).result (ascii "Scan command sent")
      (ascii "Failed to send scan command")

def handleScan (net : ℕ → Bool) : List Word → Except Exception Result :=
  readOptions scanOptions (scanAct net)

def linkOptions : Table :=
  [(ascii "--frequency", textValue), (ascii "--bandwidth", textValue), (ascii "--mcs", textValue),
    (ascii "--tx-power", textValue), (ascii "--tx-power-armed", textValue),
    (ascii "--card", numberValue),
    (ascii "--redundant-tx", boolValue (ascii "--redundant-tx")), (ascii "--air-only", noValue)]

def linkRows (cardIndex : ℤ) : List Row :=
  [⟨ascii "--frequency", ascii "WB_FREQUENCY", MAV_PARAM_EXT_TYPE_REAL32⟩,
    ⟨ascii "--bandwidth", ascii "WB_CHANNEL_W", MAV_PARAM_EXT_TYPE_REAL32⟩,
    ⟨ascii "--mcs", ascii "WB_MCS_INDEX", MAV_PARAM_EXT_TYPE_INT32⟩,
    ⟨ascii "--tx-power",
      if 0 ≤ cardIndex then ascii "TX_POWER_MW" ++ ascii "_" ++ digitsText cardIndex.toNat
      else ascii "TX_POWER_MW", MAV_PARAM_EXT_TYPE_INT32⟩,
    ⟨ascii "--tx-power-armed",
      if 0 ≤ cardIndex then ascii "TX_POWER_MWA_" ++ digitsText cardIndex.toNat
      else ascii "TX_POWER_MW_ARM", MAV_PARAM_EXT_TYPE_INT32⟩,
    ⟨ascii "--redundant-tx", ascii "WB_RED_TX", MAV_PARAM_EXT_TYPE_INT32⟩]

def linkAct (net : ℕ → Bool) (vars : Vars) : Result :=
  let cardIndex := number vars (ascii "--card") (-1)
  let mirrorGround := !isGiven vars (ascii "--air-only")
  let targets := defaultLinkTargets mirrorGround
  (Sending.sendAll net {} (paramSets vars targets fun _ => linkRows cardIndex)).result
    (ascii "Link params sent") (ascii "Failed to send some link params")

def handleSetLink (net : ℕ → Bool) : List Word → Except Exception Result :=
  readOptions linkOptions (linkAct net)

def videoOptions : Table :=
  [(ascii "--mode", textValue), (ascii "--codec", textValue), (ascii "--bitrate", textValue),
    (ascii "--keyframe", textValue), (ascii "--rotation", textValue), (ascii "--flip", textValue)]

def videoRows : List Row :=
  [⟨ascii "--mode", ascii "RESOLUTION_FPS", MAV_PARAM_EXT_TYPE_CUSTOM⟩,
    ⟨ascii "--codec", ascii "VIDEO_CODEC", MAV_PARAM_EXT_TYPE_CUSTOM⟩,
    ⟨ascii "--bitrate", ascii "BITRATE_MBITS", MAV_PARAM_EXT_TYPE_REAL32⟩,
    ⟨ascii "--keyframe", ascii "KEYFRAME_I", MAV_PARAM_EXT_TYPE_INT32⟩,
    ⟨ascii "--rotation", ascii "ROTATION_DEG", MAV_PARAM_EXT_TYPE_INT32⟩,
    ⟨ascii "--flip", ascii "ROTATION_FLIP", MAV_PARAM_EXT_TYPE_INT32⟩]

def videoAct (net : ℕ → Bool) (vars : Vars) : Result :=
  (Sending.sendAll net {} (paramSets vars [⟨101, MAV_COMP_ID_CAMERA⟩] fun _ => videoRows)).result
    (ascii "Video params sent") (ascii "Failed to send some video params")

def handleSetVideo (net : ℕ → Bool) : List Word → Except Exception Result :=
  readOptions videoOptions (videoAct net)

def cameraOptions : Table :=
  [(ascii "--iso", textValue), (ascii "--awb", textValue), (ascii "--contrast", textValue),
    (ascii "--sharpness", textValue), (ascii "--saturation", textValue)]

def cameraRows : List Row :=
  [⟨ascii "--iso", ascii "ISO", MAV_PARAM_EXT_TYPE_INT32⟩,
    ⟨ascii "--awb", ascii "AWB_MODE", MAV_PARAM_EXT_TYPE_CUSTOM⟩,
    ⟨ascii "--contrast", ascii "CONTRAST_LC", MAV_PARAM_EXT_TYPE_INT32⟩,
    ⟨ascii "--sharpness", ascii "SHARPNESS_LC", MAV_PARAM_EXT_TYPE_INT32⟩,
    ⟨ascii "--saturation", ascii "SATURATION_LC", MAV_PARAM_EXT_TYPE_INT32⟩]

def cameraAct (net : ℕ → Bool) (vars : Vars) : Result :=
  (Sending.sendAll net {} (paramSets vars [⟨101, MAV_COMP_ID_CAMERA⟩] fun _ => cameraRows)).result
    (ascii "Camera params sent") (ascii "Failed to send some camera params")

def handleSetCamera (net : ℕ → Bool) : List Word → Except Exception Result :=
  readOptions cameraOptions (cameraAct net)

def recordingOptions : Table := [(ascii "--mode", textValue)]

/-- `kModes` -/
def recordingModes : List (Word × Word) :=
  [(ascii "disable", ascii "DISABLE"), (ascii "enable", ascii "ENABLE"),
    (ascii "auto", ascii "AUTO")]

def recordingAct (net : ℕ → Bool) (vars : Vars) : Result :=
  match text vars (ascii "--mode") with
  | none => Sending.refused {} (ascii "set-recording requires --mode disable|enable|auto")
  | some mode =>
    match recordingModes.lookup mode with
    | none => Sending.refused {} (ascii "Unknown recording mode: " ++ mode)
    | some value =>
      (Sending.send net {} (paramSet ⟨101, MAV_COMP_ID_ONBOARD_COMPUTER⟩ (ascii "AIR_RECORDING_E")
        value MAV_PARAM_EXT_TYPE_CUSTOM)).result
        (ascii "Recording mode sent") (ascii "Failed to send recording mode")

def handleSetRecording (net : ℕ → Bool) : List Word → Except Exception Result :=
  readOptions recordingOptions (recordingAct net)

def wifiOptions : Table :=
  [(ascii "--target", textValue), (ascii "--mode", textValue), (ascii "--hotspot", textValue),
    (ascii "--hs-iface", textValue), (ascii "--cl-iface", textValue),
    (ascii "--cl-ssid", textValue), (ascii "--cl-pw", textValue)]

/-- `kMode` -/
def wifiModes : List (Word × ℕ) := [(ascii "off", 0), (ascii "hotspot", 1), (ascii "client", 2)]

/-- `kHotspot` -/
def hotspotModes : List (Word × ℕ) := [(ascii "auto", 0), (ascii "off", 1), (ascii "on", 2)]

/-- A mode is looked up when it is sent. -/
def sendMode (net : ℕ → Bool) (target : Target) (mode? : Option Word) (modes : List (Word × ℕ))
    (paramId unknown : Word) (s : Sending) : Except Result Sending :=
  match mode? with
  | none => .ok s
  | some mode =>
    match modes.lookup mode with
    | none => .error (s.refused (unknown ++ mode))
    | some n => .ok (s.send net (paramSet target paramId (digitsText n) MAV_PARAM_EXT_TYPE_INT32))

def wifiRows : List Row :=
  [⟨ascii "--hs-iface", ascii "WIFI_HS_IFACE", MAV_PARAM_EXT_TYPE_CUSTOM⟩,
    ⟨ascii "--cl-iface", ascii "WIFI_CL_IFACE", MAV_PARAM_EXT_TYPE_CUSTOM⟩,
    ⟨ascii "--cl-ssid", ascii "WIFI_CL_SSID", MAV_PARAM_EXT_TYPE_CUSTOM⟩,
    ⟨ascii "--cl-pw", ascii "WIFI_CL_PW", MAV_PARAM_EXT_TYPE_CUSTOM⟩]

def wifiSends (net : ℕ → Bool) (target : Target) (vars : Vars) : Except Result Sending := do
  let s ← sendMode net target (text vars (ascii "--mode")) wifiModes (ascii "WIFI_MODE")
    (ascii "Unknown WiFi mode: ") {}
  let s ← sendMode net target (text vars (ascii "--hotspot")) hotspotModes
    (ascii "WIFI_HOTSPOT_E") (ascii "Unknown hotspot mode: ") s
  return s.sendAll net (paramSets vars [target] fun _ => wifiRows)

def wifiAct (net : ℕ → Bool) (vars : Vars) : Result :=
  match text vars (ascii "--target") with
  | none => Sending.refused {} (ascii "set-wifi requires --target air|ground")
  | some targetName =>
    match parseTarget targetName with
    | .error what => Sending.refused {} what
    | .ok target =>
      match wifiSends net target vars with
      | .error r => r
      | .ok s => s.result (ascii "WiFi parameters sent")
          (ascii "Failed to send some WiFi parameters")

def handleSetWifi (net : ℕ → Bool) : List Word → Except Exception Result :=
  readOptions wifiOptions (wifiAct net)

def uartOptions : Table :=
  [(ascii "--target", textValue), (ascii "--air-only", noValue), (ascii "--device", textValue),
    (ascii "--enable", boolValue (ascii "--enable")), (ascii "--baud", textValue),
    (ascii "--flow", boolValue (ascii "--flow")), (ascii "--prio-rc", textValue),
    (ascii "--prio-ohd", textValue), (ascii "--prio-fc", textValue),
    (ascii "--tracker-device", textValue), (ascii "--tracker-baud", textValue),
    (ascii "--tracker-flow", boolValue (ascii "--tracker-flow"))]

def uartRows (target : Target) : List Row :=
  [⟨ascii "--device", ascii "OHD_UART_TLM", MAV_PARAM_EXT_TYPE_CUSTOM⟩,
    ⟨ascii "--enable", ascii "OHD_UART_EN", MAV_PARAM_EXT_TYPE_INT32⟩,
    ⟨ascii "--baud", ascii "OHD_UART_BAUD", MAV_PARAM_EXT_TYPE_INT32⟩,
    ⟨ascii "--flow", ascii "OHD_UART_FLW", MAV_PARAM_EXT_TYPE_INT32⟩,
    ⟨ascii "--prio-rc", ascii "UART_PRI_RC", MAV_PARAM_EXT_TYPE_INT32⟩,
    ⟨ascii "--prio-ohd", ascii "UART_PRI_OHD", MAV_PARAM_EXT_TYPE_INT32⟩,
    ⟨ascii "--prio-fc", ascii "UART_PRI_FC", MAV_PARAM_EXT_TYPE_INT32⟩] ++
  if target.systemId = 100 then
    [⟨ascii "--tracker-device", ascii "TRACKER_UART_OUT", MAV_PARAM_EXT_TYPE_CUSTOM⟩,
      ⟨ascii "--tracker-baud", ascii "TRACK_UART_BAUD", MAV_PARAM_EXT_TYPE_INT32⟩,
      ⟨ascii "--tracker-flow", ascii "TRACK_UART_FLOW", MAV_PARAM_EXT_TYPE_INT32⟩]
  else []

def uartTargets (vars : Vars) : Except Word (List Target) :=
  match text vars (ascii "--target") with
  | some targetName => (parseTarget targetName).map fun target => [target]
  | none => .ok (defaultLinkTargets !isGiven vars (ascii "--air-only"))

def uartAct (net : ℕ → Bool) (vars : Vars) : Result :=
  match uartTargets vars with
  | .error what => Sending.refused {} what
  | .ok targets =>
    (Sending.sendAll net {} (paramSets vars targets uartRows)).result
      (ascii "UART parameters sent") (ascii "Failed to send some UART parameters")

def handleSetUart (net : ℕ → Bool) : List Word → Except Exception Result :=
  readOptions uartOptions (uartAct net)

/-- The rest of `main`. -/
def Outcome.run (net : ℕ → Bool) : Outcome → Except Exception Result
  | .usage => .ok (Sending.refused {} [])
  | .handle command _ argv =>
    if command = ascii "scan" then handleScan net argv
    else if command = ascii "set-link" then handleSetLink net argv
    else if command = ascii "set-video" then handleSetVideo net argv
    else if command = ascii "set-camera" then handleSetCamera net argv
    else if command = ascii "set-recording" then handleSetRecording net argv
    else if command = ascii "set-wifi" then handleSetWifi net argv
    else handleSetUart net argv

/-- The tool. -/
def tool (net : ℕ → Bool) (argv : List Word) : Except Exception Result := do
  let outcome ← main argv
  outcome.run net

/-! ### The commands -/

def optionsOf (command : Word) : Table :=
  if command = ascii "scan" then scanOptions
  else if command = ascii "set-link" then linkOptions
  else if command = ascii "set-video" then videoOptions
  else if command = ascii "set-camera" then cameraOptions
  else if command = ascii "set-recording" then recordingOptions
  else if command = ascii "set-wifi" then wifiOptions
  else uartOptions

def actOf (net : ℕ → Bool) (command : Word) : Vars → Result :=
  if command = ascii "scan" then scanAct net
  else if command = ascii "set-link" then linkAct net
  else if command = ascii "set-video" then videoAct net
  else if command = ascii "set-camera" then cameraAct net
  else if command = ascii "set-recording" then recordingAct net
  else if command = ascii "set-wifi" then wifiAct net
  else uartAct net

theorem run_handle (net : ℕ → Bool) (command : Word) (addr : SockaddrIn) (argv : List Word) :
    (Outcome.handle command addr argv).run net =
      readOptions (optionsOf command) (actOf net command) argv := by
  rw [Outcome.run, optionsOf, actOf]
  split_ifs <;> rfl

theorem tool_eq_ok_iff {net : ℕ → Bool} {argv : List Word} {r : Result} :
    tool net argv = .ok r ↔ ∃ outcome, main argv = .ok outcome ∧ outcome.run net = .ok r := by
  rw [tool]
  cases h : main argv with
  | error e => exact iff_of_false nofun (by rintro ⟨_, ⟨⟩, -⟩)
  | ok outcome =>
      constructor
      · exact fun hrun => ⟨outcome, rfl, hrun⟩
      · rintro ⟨_, ⟨⟩, hrun⟩
        exact hrun

/-! ### What is reported -/

/-- `success` is what `net` says. -/
def Sending.Honest (net : ℕ → Bool) (s : Sending) : Prop :=
  s.success = true ↔ ∀ i < s.sent.length, net i = true

theorem honest_init (net : ℕ → Bool) : Sending.Honest net {} :=
  ⟨fun _ _ h => absurd h (Nat.not_lt_zero _), fun _ => rfl⟩

theorem Sending.Honest.send {net : ℕ → Bool} {s : Sending} (h : s.Honest net) (m : Message) :
    (s.send net m).Honest net := by
  rw [Sending.Honest] at h ⊢
  simp only [Sending.send, Bool.and_eq_true, h, List.length_append, List.length_singleton,
    Nat.lt_succ_iff_lt_or_eq]
  constructor
  · rintro ⟨hbefore, hlast⟩ i (hi | rfl)
    · exact hbefore i hi
    · exact hlast
  · exact fun hall => ⟨fun i hi => hall i (.inl hi), hall _ (.inr rfl)⟩

theorem Sending.Honest.sendAll {net : ℕ → Bool} {s : Sending} (h : s.Honest net)
    (ms : List Message) : (s.sendAll net ms).Honest net := by
  induction ms generalizing s with
  | nil => exact h
  | cons m ms ih => exact ih (h.send m)

theorem sent_sendAll (net : ℕ → Bool) (s : Sending) (ms : List Message) :
    (s.sendAll net ms).sent = s.sent ++ ms := by
  induction ms generalizing s with
  | nil => exact (List.append_nil _).symm
  | cons m ms ih =>
      rw [Sending.sendAll, List.foldl_cons, ← Sending.sendAll, ih, Sending.send, List.append_assoc]
      rfl

theorem sent_result (s : Sending) (done failed : Word) : (s.result done failed).sent = s.sent := by
  rw [Sending.result]
  split <;> rfl

/-- The tool has failed although it has sent something, and nothing that it has sent failed. -/
def HalfDone (net : ℕ → Bool) (r : Result) : Prop :=
  r.code ≠ 0 ∧ r.sent ≠ [] ∧ ∀ i < r.sent.length, net i = true

theorem not_halfDone_result {net : ℕ → Bool} {s : Sending} (h : s.Honest net)
    (done failed : Word) : ¬ HalfDone net (s.result done failed) := by
  rintro ⟨hcode, -, hnet⟩
  rw [sent_result] at hnet
  rw [Sending.result, if_pos (h.mpr hnet)] at hcode
  exact hcode rfl

theorem not_halfDone_refused (net : ℕ → Bool) (text : Word) :
    ¬ HalfDone net (Sending.refused {} text) := fun h => h.2.1 rfl

theorem readOptions_eq_ok {table : Table} {act : Vars → Result} {argv : List Word} {r : Result}
    (h : readOptions table act argv = .ok r) :
    (∃ vars, Options.read table (fun _ => none) argv.tail = .ok vars ∧ r = act vars) ∨
      ∃ text, r = Sending.refused {} text := by
  rw [readOptions] at h
  split at h
  · exact .inl ⟨_, ‹_›, (Except.ok.inj h).symm⟩
  · cases h
  · exact .inr ⟨_, (Except.ok.inj h).symm⟩

/-- The messages are sent, and the handler reports whether all of them were. -/
def Sends (net : ℕ → Bool) (r : Result) (ms : List Message) : Prop :=
  ∃ done failed, r = (Sending.sendAll net {} ms).result done failed

theorem Sends.not_halfDone {net : ℕ → Bool} {r : Result} {ms : List Message}
    (h : Sends net r ms) : ¬ HalfDone net r := by
  obtain ⟨done, failed, rfl⟩ := h
  exact not_halfDone_result ((honest_init net).sendAll ms) done failed

theorem scanAct_cases (net : ℕ → Bool) (vars : Vars) :
    (∃ text, scanAct net vars = Sending.refused {} text) ∨
      ∃ target command param1 param2,
        Sends net (scanAct net vars) [.commandLong target command param1 param2] := by
  rw [scanAct]
  split
  · exact .inl ⟨_, rfl⟩
  · right
    dsimp only
    split <;> exact ⟨_, _, _, _, _, _, rfl⟩

theorem recordingAct_cases (net : ℕ → Bool) (vars : Vars) :
    (∃ text, recordingAct net vars = Sending.refused {} text) ∨
      ∃ target name value type,
        Sends net (recordingAct net vars) [paramSet target name value type] := by
  rw [recordingAct]
  split
  · exact .inl ⟨_, rfl⟩
  split
  · exact .inl ⟨_, rfl⟩
  · exact .inr ⟨_, _, _, _, _, _, rfl⟩

theorem uartAct_cases (net : ℕ → Bool) (vars : Vars) :
    (∃ text, uartAct net vars = Sending.refused {} text) ∨
      ∃ targets, uartTargets vars = .ok targets ∧
        Sends net (uartAct net vars) (paramSets vars targets uartRows) := by
  rw [uartAct]
  split
  · exact .inl ⟨_, rfl⟩
  · exact .inr ⟨_, ‹_›, _, _, rfl⟩

/-- All but one refuse before they send. -/
theorem actOf_cases (net : ℕ → Bool) {command : Word} (h : command ≠ ascii "set-wifi")
    (vars : Vars) :
    (∃ text, actOf net command vars = Sending.refused {} text) ∨
      ∃ ms, Sends net (actOf net command vars) ms := by
  rw [actOf]
  split_ifs with hscan hlink hvideo hcamera hrecording
  · exact (scanAct_cases net vars).imp_right fun ⟨_, _, _, _, hsends⟩ => ⟨_, hsends⟩
  · exact .inr ⟨_, _, _, rfl⟩
  · exact .inr ⟨_, _, _, rfl⟩
  · exact .inr ⟨_, _, _, rfl⟩
  · exact (recordingAct_cases net vars).imp_right fun ⟨_, _, _, _, hsends⟩ => ⟨_, hsends⟩
  · exact (uartAct_cases net vars).imp_right fun ⟨_, _, hsends⟩ => ⟨_, hsends⟩

/-- The mode is known and the hotspot mode is not. -/
structure UnknownHotspot (vars : Vars) : Prop where
  target : ∃ name target, text vars (ascii "--target") = some name ∧ parseTarget name = .ok target
  mode : ∃ mode n, text vars (ascii "--mode") = some mode ∧ wifiModes.lookup mode = some n
  hotspot : ∃ mode, text vars (ascii "--hotspot") = some mode ∧ hotspotModes.lookup mode = none

theorem honest_sendMode {net : ℕ → Bool} {target : Target} {mode? : Option Word}
    {modes : List (Word × ℕ)} {paramId unknown : Word} {s s' : Sending} (hs : s.Honest net)
    (h : sendMode net target mode? modes paramId unknown s = .ok s') : s'.Honest net := by
  unfold sendMode at h
  split at h
  · exact Except.ok.inj h ▸ hs
  split at h
  · cases h
  · exact Except.ok.inj h ▸ hs.send _

theorem sendMode_eq_error_iff {net : ℕ → Bool} {target : Target} {mode? : Option Word}
    {modes : List (Word × ℕ)} {paramId unknown : Word} {s : Sending} {r : Result} :
    sendMode net target mode? modes paramId unknown s = .error r ↔
      ∃ mode, mode? = some mode ∧ modes.lookup mode = none ∧ r = s.refused (unknown ++ mode) := by
  unfold sendMode
  rcases mode? with - | mode
  · simp
  · dsimp only
    cases hlookup : modes.lookup mode with
    | none =>
        constructor
        · exact fun h => ⟨mode, rfl, hlookup, (Except.error.inj h).symm⟩
        · rintro ⟨_, ⟨⟩, -, rfl⟩
          rfl
    | some n =>
        refine iff_of_false nofun ?_
        rintro ⟨_, ⟨⟩, hnone, -⟩
        exact absurd (hlookup.symm.trans hnone) nofun

/-- What has been sent when the hotspot mode is looked up. -/
theorem sendMode_init {net : ℕ → Bool} {target : Target} {mode? : Option Word}
    {modes : List (Word × ℕ)} {paramId unknown : Word} {s : Sending}
    (h : sendMode net target mode? modes paramId unknown {} = .ok s) :
    mode? = none ∧ s.sent = [] ∨
      ∃ mode n, mode? = some mode ∧ modes.lookup mode = some n ∧ s.sent.length = 1 := by
  unfold sendMode at h
  rcases mode? with - | mode
  · exact .inl ⟨rfl, by rw [← Except.ok.inj h]⟩
  · cases hlookup : modes.lookup mode with
    | none => simp [hlookup] at h
    | some n =>
        simp only [hlookup] at h
        exact .inr ⟨mode, n, rfl, hlookup, by rw [← Except.ok.inj h]; rfl⟩

theorem halfDone_refused_iff {net : ℕ → Bool} {s : Sending} (text : Word) :
    HalfDone net (s.refused text) ↔ s.sent ≠ [] ∧ ∀ i < s.sent.length, net i = true :=
  and_iff_right (by decide : (1 : ℤ) ≠ 0)

/-- The two modes, one after the other. -/
theorem wifiSends_cases (net : ℕ → Bool) (target : Target) (vars : Vars) :
    (∃ mode text', text vars (ascii "--mode") = some mode ∧ wifiModes.lookup mode = none ∧
      wifiSends net target vars = .error (Sending.refused {} text')) ∨
    (∃ s mode text', sendMode net target (text vars (ascii "--mode")) wifiModes
        (ascii "WIFI_MODE") (ascii "Unknown WiFi mode: ") {} = .ok s ∧
      text vars (ascii "--hotspot") = some mode ∧ hotspotModes.lookup mode = none ∧
      wifiSends net target vars = .error (s.refused text')) ∨
    ∃ s, s.Honest net ∧ wifiSends net target vars = .ok s ∧
      ∀ mode, text vars (ascii "--hotspot") = some mode → hotspotModes.lookup mode ≠ none := by
  cases hmode : sendMode net target (text vars (ascii "--mode")) wifiModes (ascii "WIFI_MODE")
      (ascii "Unknown WiFi mode: ") {} with
  | error r =>
      obtain ⟨mode, hset, hlookup, rfl⟩ := sendMode_eq_error_iff.mp hmode
      exact .inl ⟨mode, ascii "Unknown WiFi mode: " ++ mode, hset, hlookup, by
        simp only [wifiSends, hmode, bind, Except.bind]⟩
  | ok s =>
      right
      cases hhotspot : sendMode net target (text vars (ascii "--hotspot")) hotspotModes
          (ascii "WIFI_HOTSPOT_E") (ascii "Unknown hotspot mode: ") s with
      | error r =>
          obtain ⟨mode, hset, hlookup, rfl⟩ := sendMode_eq_error_iff.mp hhotspot
          exact .inl ⟨s, mode, ascii "Unknown hotspot mode: " ++ mode, rfl, hset, hlookup, by
            simp only [wifiSends, hmode, hhotspot, bind, Except.bind]⟩
      | ok s' =>
          have hs' := honest_sendMode (honest_sendMode (honest_init net) hmode) hhotspot
          refine .inr ⟨_, hs'.sendAll (paramSets vars [target] fun _ => wifiRows), ?_, ?_⟩
          · simp only [wifiSends, hmode, hhotspot, bind, Except.bind, pure, Except.pure]
          intro mode hset hlookup
          rw [sendMode_eq_error_iff.mpr ⟨mode, hset, hlookup, rfl⟩] at hhotspot
          cases hhotspot

theorem halfDone_wifiAct_iff (net : ℕ → Bool) (vars : Vars) :
    HalfDone net (wifiAct net vars) ↔ net 0 = true ∧ UnknownHotspot vars := by
  rw [wifiAct]
  cases htarget : text vars (ascii "--target") with
  | none =>
      refine iff_of_false (not_halfDone_refused net _) ?_
      rintro ⟨-, ⟨name, target, hname, -⟩, -, -⟩
      exact absurd (htarget.symm.trans hname) nofun
  | some name =>
  dsimp only
  cases hparse : parseTarget name with
  | error what =>
      refine iff_of_false (not_halfDone_refused net _) ?_
      rintro ⟨-, ⟨name', target, hname, hok⟩, -, -⟩
      obtain rfl := Option.some.inj (htarget.symm.trans hname)
      exact absurd (hparse.symm.trans hok) nofun
  | ok target =>
  dsimp only
  obtain ⟨mode, text', hset, hlookup, h⟩ | ⟨s, hotspot, text', hs, hset, hlookup, h⟩ |
    ⟨s, hs, h, hknown⟩ := wifiSends_cases net target vars <;> rw [h]
  · refine iff_of_false (not_halfDone_refused net _) ?_
    rintro ⟨-, -, ⟨mode', n, hset', hn⟩, -⟩
    obtain rfl := Option.some.inj (hset.symm.trans hset')
    exact absurd (hlookup.symm.trans hn) nofun
  · dsimp only
    rw [halfDone_refused_iff]
    obtain ⟨hnone, hsent⟩ | ⟨mode, n, hmode, hn, hlength⟩ := sendMode_init hs
    · refine iff_of_false (fun h => h.1 hsent) ?_
      rintro ⟨-, -, ⟨mode, n, hmode, -⟩, -⟩
      exact absurd (hnone.symm.trans hmode) nofun
    · constructor
      · rintro ⟨-, hnet⟩
        exact ⟨hnet 0 (by omega), ⟨name, target, htarget, hparse⟩, ⟨mode, n, hmode, hn⟩, hotspot,
          hset, hlookup⟩
      · rintro ⟨hnet, -⟩
        refine ⟨List.ne_nil_of_length_pos (by omega), fun i hi => ?_⟩
        obtain rfl : i = 0 := by omega
        exact hnet
  · refine iff_of_false (not_halfDone_result hs _ _) ?_
    rintro ⟨-, -, -, ⟨mode, hset, hlookup⟩⟩
    exact hknown mode hset hlookup

/-- **What fails half way**: the tool sends something, none of which fails, and fails itself,
exactly when it is to set a known mode of the WiFi together with an unknown one of the hotspot,
and this mode could be sent.  All other arguments that it refuses it refuses before it sends. -/
theorem half_done_iff (net : ℕ → Bool) (argv : List Word) :
    (∃ r, tool net argv = .ok r ∧ HalfDone net r) ↔
      net 0 = true ∧ ∃ addr argv' vars, main argv = .ok (.handle (ascii "set-wifi") addr argv') ∧
        Options.read wifiOptions (fun _ => none) argv'.tail = .ok vars ∧ UnknownHotspot vars := by
  have hoptions : optionsOf (ascii "set-wifi") = wifiOptions := by rfl
  have hact : actOf net (ascii "set-wifi") = wifiAct net := by rfl
  constructor
  · rintro ⟨r, hr, hhalf⟩
    obtain ⟨outcome, hmain, hrun⟩ := tool_eq_ok_iff.mp hr
    cases outcome with
    | usage => exact absurd (Except.ok.inj hrun ▸ hhalf) (not_halfDone_refused net [])
    | handle command addr argv' =>
        rw [run_handle] at hrun
        obtain ⟨vars, hread, rfl⟩ | ⟨text, rfl⟩ := readOptions_eq_ok hrun
        · obtain rfl : command = ascii "set-wifi" := by
            by_contra hne
            obtain ⟨text, heq⟩ | ⟨ms, hsends⟩ := actOf_cases net hne vars
            · exact not_halfDone_refused net text (heq ▸ hhalf)
            · exact hsends.not_halfDone hhalf
          rw [hact, halfDone_wifiAct_iff] at hhalf
          exact ⟨hhalf.1, addr, argv', vars, hmain, hoptions ▸ hread, hhalf.2⟩
        · exact absurd hhalf (not_halfDone_refused net text)
  · rintro ⟨hnet, addr, argv', vars, hmain, hread, hunknown⟩
    refine ⟨wifiAct net vars, tool_eq_ok_iff.mpr ⟨_, hmain, ?_⟩,
      (halfDone_wifiAct_iff net vars).mpr ⟨hnet, hunknown⟩⟩
    rw [run_handle, hoptions, hact, readOptions, hread]

end Tool

end QOpenHD
