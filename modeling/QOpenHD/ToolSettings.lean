/-
QOpenHD/ToolSettings.lean

What the commands of `openhd_mavlink_tool` set.

A command acts on the last value of each option (`tool_usage`), so neither the order of the
options nor a value before the last one matters (`tool_last`).  What a unit reads of a
parameter's name is its first 15 bytes; the names of one command stay different
(**`sent_once`**), also with the number of a card behind them.
-/
import QOpenHD.ToolCommands

namespace QOpenHD

namespace Tool

/-! ### The last value of each option -/

/-- The command line of the usage text. -/
def usage (prog : Word) (addr : Vector UInt8 4) (port : UInt16) (command : Word)
    (ws : List (Options.Written Word)) : List Word :=
  prog :: ascii "--host" :: inetNtoa addr :: ascii "--port" :: digitsText port.toNat ::
    command :: ws.flatMap Options.Written.words

/-- The options are those of a command, all their values are accepted, and none of the words is
one for `parse_endpoint`. -/
structure Accepts (command : Word) (ws : List (Options.Written Word))
    (settings : List (Word × Arg)) : Prop where
  meaning : ws.map (Options.Written.meaning (optionsOf command)) =
    (Options.accepted settings).map some
  endpoint : ∀ word ∈ ws.flatMap Options.Written.words,
    word ≠ ascii "--host" ∧ word ≠ ascii "--port"

theorem items_eq_words {rest : List Word}
    (h : ∀ word ∈ rest, word ≠ ascii "--host" ∧ word ≠ ascii "--port") :
    items rest = rest.map .word := by
  fun_induction items rest with
  | case1 => rfl
  | case2 arg => rfl
  | case3 arg next rest hpair ih =>
      obtain ⟨hhost, hport⟩ := h arg List.mem_cons_self
      exact absurd hpair (not_isPair_of_ne hhost hport)
  | case4 arg next rest hpair ih =>
      rw [List.map_cons, ih fun word hword => h word (List.mem_cons_of_mem _ hword)]

theorem command_ne_endpoint : ∀ command ∈ commands,
    command ≠ ascii "--host" ∧ command ≠ ascii "--port" := by
  decide

/-- **The tool, used as its usage text says**, acts on the last value of each option. -/
theorem tool_usage (net : ℕ → Bool) (prog : Word) (addr : Vector UInt8 4) (port : UInt16)
    {command : Word} (hcommand : command ∈ commands) {ws : List (Options.Written Word)}
    {settings : List (Word × Arg)} (h : Accepts command ws settings) :
    main (usage prog addr port command ws) =
        .ok (.handle command ⟨addr, ntohs port⟩
          (command :: ws.flatMap Options.Written.words)) ∧
      tool net (usage prog addr port command ws) =
        .ok (actOf net command (Options.last settings)) := by
  have hitems := items_eq_words (List.forall_mem_cons.mpr
    ⟨command_ne_endpoint command hcommand, h.endpoint⟩)
  have hmain : main (usage prog addr port command ws) = .ok (.handle command ⟨addr, ntohs port⟩
      (command :: ws.flatMap Options.Written.words)) := by
    refine main_usage prog addr port hcommand (by rw [hitems, pairs_words]) ?_
    rw [hitems, IsLast]
    intro hmem
    obtain ⟨word, hword, heq⟩ := List.mem_map.mp (List.mem_of_mem_dropLast hmem)
    obtain rfl := Item.word.inj heq
    rcases List.mem_cons.mp hword with rfl | hword
    · exact (command_ne_endpoint _ hcommand).2 rfl
    · exact (h.endpoint _ hword).2 rfl
  have hsome : ∀ w ∈ ws, (Options.Written.meaning (optionsOf command) w).isSome := by
    intro w hw
    have hmem := List.mem_map_of_mem (f := Options.Written.meaning (optionsOf command)) hw
    rw [h.meaning] at hmem
    obtain ⟨x, -, hx⟩ := List.mem_map.mp hmem
    rw [← hx]
    rfl
  have hgiven : Options.given (optionsOf command) (ws.flatMap Options.Written.words) =
      Options.accepted settings := by
    have hwords := Options.given_words hsome []
    rw [List.append_nil] at hwords
    have hid : ws.filterMap (Options.Written.meaning (optionsOf command)) =
        (ws.map (Options.Written.meaning (optionsOf command))).filterMap id := by
      rw [List.filterMap_map]
      rfl
    rw [hwords, hid, h.meaning, List.filterMap_map]
    exact (List.append_nil _).trans List.filterMap_some
  have hassign : Options.assign (fun _ => none) settings = Options.last settings := by
    funext option
    rw [Options.assign_eq_last, Option.or_none]
  refine ⟨hmain, tool_eq_ok_iff.mpr ⟨_, hmain, ?_⟩⟩
  rw [run_handle, readOptions, List.tail_cons,
    Options.read_eq_ok_iff.mpr ⟨settings, hgiven, rfl⟩, hassign]

/-- **All but the last value of each option, and the order of the options**, make no difference. -/
theorem tool_last (net : ℕ → Bool) (prog : Word) (addr : Vector UInt8 4) (port : UInt16)
    {command : Word} (hcommand : command ∈ commands) {ws ws' : List (Options.Written Word)}
    {settings settings' : List (Word × Arg)} (h : Accepts command ws settings)
    (h' : Accepts command ws' settings') (hlast : Options.last settings = Options.last settings') :
    ∃ r, tool net (usage prog addr port command ws) = .ok r ∧
      tool net (usage prog addr port command ws') = .ok r := by
  refine ⟨_, (tool_usage net prog addr port hcommand h).2, ?_⟩
  rw [hlast]
  exact (tool_usage net prog addr port hcommand h').2

/-- A modulation that is given twice, and the same options the other way round. -/
theorem tool_last_reordered :
    ∃ r, tool (fun _ => true) (usage (ascii "openhd_mavlink_tool") #v[127, 0, 0, 1] 14550
        (ascii "set-link") [(ascii "--mcs", some (ascii "3")), (ascii "--air-only", none),
          (ascii "--mcs", some (ascii "5"))]) = .ok r ∧
      tool (fun _ => true) (usage (ascii "openhd_mavlink_tool") #v[127, 0, 0, 1] 14550
        (ascii "set-link") [(ascii "--mcs", some (ascii "5")), (ascii "--air-only", none)]) =
          .ok r := by
  have hlast : Options.last [(ascii "--mcs", Arg.text (ascii "3")), (ascii "--air-only", .flag),
      (ascii "--mcs", .text (ascii "5"))] =
      Options.last [(ascii "--mcs", .text (ascii "5")), (ascii "--air-only", .flag)] := by
    rw [Options.last_cons_of_mem (by decide)]
    exact Options.last_of_perm (.swap _ _ []) (by decide)
  exact tool_last (fun _ => true) (ascii "openhd_mavlink_tool") #v[127, 0, 0, 1] 14550 (by decide)
    ⟨rfl, by decide⟩ ⟨rfl, by decide⟩ hlast

/-! ### What a unit gets -/

def Message.place? : Message → Option Place
  | .paramExtSet payload => some payload.place
  | .commandLong .. => none

/-- The parameters that are set, and where. -/
def Result.places (r : Result) : List Place := r.sent.filterMap Message.place?

/-- The name that a unit reads. -/
def Row.name (row : Row) : Word := (cString row.paramId).take 15

def placeOf (target : Target) (name : Word) : Place :=
  ⟨target.systemId, target.componentId, name⟩

theorem place?_paramSet (target : Target) (name value : Word) (type : UInt8) :
    (paramSet target name value type).place? =
      some (placeOf target ((cString name).take 15)) := by
  have hname : getParamId (strncpyTerminated 16 name) = (cString name).take 15 :=
    fieldString_strncpyTerminated 16 name
  exact congrArg (fun name => some (placeOf target name)) hname

/-- Each row sets its parameter at most once. -/
theorem places_rows (vars : Vars) (target : Target) (rows : List Row) :
    ((rows.filterMap (Row.message? vars target)).filterMap Message.place?).Sublist
      (rows.map fun row => placeOf target row.name) := by
  induction rows with
  | nil => exact .slnil
  | cons row rows ih =>
      cases h : text vars row.option with
      | none =>
          have hmessage : row.message? vars target = none := by simp [Row.message?, h]
          rw [List.filterMap_cons_none hmessage]
          exact ih.cons _
      | some value =>
          have hmessage : row.message? vars target =
              some (paramSet target row.paramId value row.type) := by simp [Row.message?, h]
          rw [List.filterMap_cons_some hmessage,
            List.filterMap_cons_some (place?_paramSet target row.paramId value row.type)]
          exact ih.cons_cons _

theorem places_paramSets (vars : Vars) (targets : List Target) (rows : Target → List Row) :
    ((paramSets vars targets rows).filterMap Message.place?).Sublist
      (targets.flatMap fun target => (rows target).map fun row => placeOf target row.name) := by
  induction targets with
  | nil => exact .slnil
  | cons target targets ih =>
      rw [paramSets, List.flatMap_cons, List.filterMap_append, List.flatMap_cons]
      exact (places_rows vars target (rows target)).append ih

/-- Different units, and different names for each. -/
theorem nodup_places {targets : List Target} {rows : Target → List Row}
    (htargets : (targets.map Target.systemId).Nodup)
    (hrows : ∀ target ∈ targets, ((rows target).map Row.name).Nodup) :
    (targets.flatMap fun target =>
      (rows target).map fun row => placeOf target row.name).Nodup := by
  have hplaces : ∀ target, ((rows target).map fun row => placeOf target row.name) =
      ((rows target).map Row.name).map (placeOf target) := fun target => by
    rw [List.map_map]
    rfl
  rw [List.nodup_flatMap]
  constructor
  · intro target htarget
    rw [hplaces]
    exact (hrows target htarget).map fun _ _ h => congrArg Place.paramId h
  · refine (List.pairwise_map.mp htargets).imp fun {a b} hne => ?_
    show List.Disjoint ((rows a).map _) ((rows b).map _)
    rw [hplaces, hplaces]
    intro place ha hb
    obtain ⟨_, -, rfl⟩ := List.mem_map.mp ha
    obtain ⟨_, -, heq⟩ := List.mem_map.mp hb
    exact hne (congrArg Place.sysid heq).symm

theorem places_result (s : Sending) (done failed : Word) :
    (s.result done failed).places = s.sent.filterMap Message.place? := by
  rw [Result.places, sent_result]

theorem Sends.places {net : ℕ → Bool} {r : Result} {ms : List Message} (h : Sends net r ms) :
    r.places = ms.filterMap Message.place? := by
  obtain ⟨done, failed, rfl⟩ := h
  rw [places_result, sent_sendAll]
  rfl

/-- A handler that sets parameters of different units. -/
theorem nodup_of_sends {net : ℕ → Bool} {r : Result} {vars : Vars} {targets : List Target}
    {rows : Target → List Row} (h : Sends net r (paramSets vars targets rows))
    (htargets : (targets.map Target.systemId).Nodup)
    (hrows : ∀ target ∈ targets, ((rows target).map Row.name).Nodup) : r.places.Nodup := by
  rw [h.places]
  exact (nodup_places htargets hrows).sublist (places_paramSets vars targets rows)

theorem nodup_defaultLinkTargets (mirrorGround : Bool) :
    ((defaultLinkTargets mirrorGround).map Target.systemId).Nodup := by
  cases mirrorGround <;> decide

/-- The number of a card leaves the names apart, also where it is cut off. -/
theorem take_name_card (stem : Word) (hlength : stem.length = 12 ∨ stem.length = 13)
    (hzero : 0 ∉ stem) (n : ℕ) :
    ((cString (stem ++ digitsText n)).take 15).take 12 = stem.take 12 := by
  have hnot : 0 ∉ stem ++ digitsText n := by
    rw [List.mem_append, not_or]
    exact ⟨hzero, fun h => absurd (digit_of_mem h).1 (by decide)⟩
  rw [cString_of_not_mem hnot, List.take_take, List.take_append_of_le_length (by omega)]
  rfl

theorem nodup_linkRows (cardIndex : ℤ) : ((linkRows cardIndex).map Row.name).Nodup := by
  by_cases hcard : 0 ≤ cardIndex
  · have hnames : ((linkRows cardIndex).map Row.name).map (List.take 12) =
        [ascii "WB_FREQUENCY", ascii "WB_CHANNEL_W", ascii "WB_MCS_INDEX", ascii "TX_POWER_MW_",
          ascii "TX_POWER_MWA", ascii "WB_RED_TX"] := by
      have hpower := take_name_card (ascii "TX_POWER_MW" ++ ascii "_") (.inl (by decide))
        (by decide) cardIndex.toNat
      have harmed := take_name_card (ascii "TX_POWER_MWA_") (.inr (by decide)) (by decide)
        cardIndex.toNat
      simp only [linkRows, if_pos hcard, List.map_cons, List.map_nil, Row.name, hpower, harmed]
      rfl
    apply List.Nodup.of_map (List.take 12)
    rw [hnames]
    decide
  · rw [linkRows, if_neg hcard, if_neg hcard]
    decide

theorem nodup_uartRows (target : Target) : ((uartRows target).map Row.name).Nodup := by
  rw [uartRows]
  split <;> decide

theorem nodup_refused (text : Word) : (Sending.refused {} text).places.Nodup := List.nodup_nil

theorem nodup_scanAct (net : ℕ → Bool) (vars : Vars) : (scanAct net vars).places.Nodup := by
  obtain ⟨text, heq⟩ | ⟨_, _, _, _, hsends⟩ := scanAct_cases net vars
  · exact heq ▸ nodup_refused text
  · rw [hsends.places]
    exact List.nodup_nil

theorem nodup_recordingAct (net : ℕ → Bool) (vars : Vars) :
    (recordingAct net vars).places.Nodup := by
  obtain ⟨text, heq⟩ | ⟨_, _, _, _, hsends⟩ := recordingAct_cases net vars
  · exact heq ▸ nodup_refused text
  · rw [hsends.places]
    exact List.nodup_singleton _

theorem nodup_uartAct (net : ℕ → Bool) (vars : Vars) : (uartAct net vars).places.Nodup := by
  have htargets : ∀ targets, uartTargets vars = .ok targets →
      (targets.map Target.systemId).Nodup := by
    intro targets h
    rw [uartTargets] at h
    split at h
    · cases hparse : parseTarget _ with
      | error what => rw [hparse] at h; cases h
      | ok target =>
          rw [hparse] at h
          obtain rfl := Except.ok.inj h
          exact List.nodup_singleton _
    · exact Except.ok.inj h ▸ nodup_defaultLinkTargets _
  obtain ⟨text, heq⟩ | ⟨targets, hok, hsends⟩ := uartAct_cases net vars
  · exact heq ▸ nodup_refused text
  · exact nodup_of_sends hsends (htargets targets hok) fun target _ => nodup_uartRows target

/-- What has been sent of a mode. -/
theorem places_sendMode {net : ℕ → Bool} {target : Target} {mode? : Option Word}
    {modes : List (Word × ℕ)} {paramId unknown : Word} {s s' : Sending} {places : List Place}
    (hs : (s.sent.filterMap Message.place?).Sublist places)
    (h : sendMode net target mode? modes paramId unknown s = .ok s') :
    (s'.sent.filterMap Message.place?).Sublist
      (places ++ [placeOf target ((cString paramId).take 15)]) := by
  unfold sendMode at h
  split at h
  · obtain rfl := Except.ok.inj h
    exact hs.trans (List.sublist_append_left _ _)
  split at h
  · cases h
  · obtain rfl := Except.ok.inj h
    rw [Sending.send, List.filterMap_append]
    refine hs.append ?_
    rw [List.filterMap_cons_some (place?_paramSet _ _ _ _)]
    exact List.Sublist.refl _

/-- The parameters of `set-wifi`. -/
def wifiNames : List Word :=
  [ascii "WIFI_MODE", ascii "WIFI_HOTSPOT_E"] ++ wifiRows.map Row.name

theorem places_wifiSends (net : ℕ → Bool) (target : Target) (vars : Vars) :
    (∀ r, wifiSends net target vars = .error r →
      r.places.Sublist (wifiNames.map (placeOf target))) ∧
    ∀ s, wifiSends net target vars = .ok s →
      (s.sent.filterMap Message.place?).Sublist (wifiNames.map (placeOf target)) := by
  have hinit : ((({} : Sending).sent).filterMap Message.place?).Sublist [] := .slnil
  cases hmode : sendMode net target (text vars (ascii "--mode")) wifiModes (ascii "WIFI_MODE")
      (ascii "Unknown WiFi mode: ") {} with
  | error r =>
      obtain ⟨mode, -, -, rfl⟩ := sendMode_eq_error_iff.mp hmode
      simp only [wifiSends, hmode, bind, Except.bind]
      exact ⟨fun r hr => Except.error.inj hr ▸ List.nil_sublist _, fun s hs => by cases hs⟩
  | ok s =>
  have hs := places_sendMode hinit hmode
  cases hhotspot : sendMode net target (text vars (ascii "--hotspot")) hotspotModes
      (ascii "WIFI_HOTSPOT_E") (ascii "Unknown hotspot mode: ") s with
  | error r =>
      obtain ⟨mode, -, -, rfl⟩ := sendMode_eq_error_iff.mp hhotspot
      simp only [wifiSends, hmode, hhotspot, bind, Except.bind]
      refine ⟨fun r hr => Except.error.inj hr ▸ hs.trans ?_, fun s hs => by cases hs⟩
      exact (List.singleton_sublist.mpr List.mem_cons_self)
  | ok s' =>
      have hs' := places_sendMode hs hhotspot
      simp only [wifiSends, hmode, hhotspot, bind, Except.bind, pure, Except.pure]
      refine ⟨fun r hr => (by cases hr), fun s hs => ?_⟩
      obtain rfl := Except.ok.inj hs
      rw [sent_sendAll, List.filterMap_append]
      have hrows := places_paramSets vars [target] fun _ => wifiRows
      rw [List.flatMap_singleton] at hrows
      refine (hs'.append hrows).trans ?_
      rw [wifiNames, List.map_append, List.map_map]
      exact List.Sublist.refl _

theorem nodup_wifiAct (net : ℕ → Bool) (vars : Vars) : (wifiAct net vars).places.Nodup := by
  have hnames (target : Target) : (wifiNames.map (placeOf target)).Nodup := by
    have hnodup : wifiNames.Nodup := by decide
    exact hnodup.map fun _ _ h => congrArg Place.paramId h
  rw [wifiAct]
  split
  · exact nodup_refused _
  split
  · exact nodup_refused _
  split
  · exact (hnames _).sublist ((places_wifiSends net _ vars).1 _ ‹_›)
  · rw [places_result]
    exact (hnames _).sublist ((places_wifiSends net _ vars).2 _ ‹_›)

/-- **No parameter of a unit is set twice**, whatever the command line is. -/
theorem sent_once {net : ℕ → Bool} {argv : List Word} {r : Result} (h : tool net argv = .ok r) :
    r.places.Nodup := by
  obtain ⟨outcome, -, hrun⟩ := tool_eq_ok_iff.mp h
  cases outcome with
  | usage => exact Except.ok.inj hrun ▸ nodup_refused _
  | handle command addr argv' =>
      rw [run_handle] at hrun
      obtain ⟨vars, -, rfl⟩ | ⟨text, rfl⟩ := readOptions_eq_ok hrun
      · rw [actOf]
        split_ifs with hscan hlink hvideo hcamera hrecording hwifi
        · exact nodup_scanAct net vars
        · exact nodup_of_sends ⟨_, _, rfl⟩ (nodup_defaultLinkTargets _) fun _ _ => nodup_linkRows _
        · exact nodup_of_sends ⟨_, _, rfl⟩ (List.nodup_singleton _) fun _ _ => by decide
        · exact nodup_of_sends ⟨_, _, rfl⟩ (List.nodup_singleton _) fun _ _ => by decide
        · exact nodup_recordingAct net vars
        · exact nodup_wifiAct net vars
        · exact nodup_uartAct net vars
      · exact nodup_refused text

/-- A frequency for both units. -/
theorem sent_once_frequency :
    ∃ r, tool (fun _ => true) (usage (ascii "openhd_mavlink_tool") #v[127, 0, 0, 1] 14550
        (ascii "set-link") [(ascii "--frequency", some (ascii "5180"))]) = .ok r ∧
      r.places.length = 2 ∧ r.places.Nodup := by
  have haccepts : Accepts (ascii "set-link") [(ascii "--frequency", some (ascii "5180"))]
      [(ascii "--frequency", .text (ascii "5180"))] := ⟨rfl, by decide⟩
  have hrun := (tool_usage (fun _ => true) (ascii "openhd_mavlink_tool") #v[127, 0, 0, 1] 14550
    (by decide) haccepts).2
  exact ⟨_, hrun, by decide +kernel, sent_once hrun⟩

end Tool

end QOpenHD
