import MarketQuery.Proofs.Plan.ActionLists

/-!
Which spelling of a field counts. A field may stand under several keys. The first key with a value
that counts for the field wins, all other values are passed over, and what stands under the keys
behind the winner changes nothing at all in the plan. For a text the values that count are the texts
that say something, for the input of an action the objects that are not empty. Only the inputs are
also checked: every value under one of their keys must be an object or a null, behind the winner
too.
-/
namespace MarketQuery.Plan

open Text (Says)

section First

variable {α : Type} {Counts : Json → α → Prop} {fields other : Fields} {keys : List String} {a : α}

def NoneOf (Counts : Json → α → Prop) (fields : Fields) (keys : List String) : Prop :=
  ∀ key ∈ keys, ∀ v, Keyed.get? key fields = some v → ∀ a, ¬ Counts v a

/-- The value under the key counts as `a`, and none under the keys before it counts. -/
def Wins (Counts : Json → α → Prop) (fields : Fields) (before : List String) (key : String)
    (a : α) : Prop :=
  (∃ v, Keyed.get? key fields = some v ∧ Counts v a) ∧ NoneOf Counts fields before

/-- The first value under the keys that counts, counts as `a`. -/
def FirstOf (Counts : Json → α → Prop) (fields : Fields) (keys : List String) (a : α) : Prop :=
  ∃ before key after, keys = before ++ key :: after ∧ Wins Counts fields before key a

/-- What the first value that counts, counts as, or the default if none does. -/
inductive Chosen (Counts : Json → α → Prop) (fields : Fields) (keys : List String) (default : α) :
    α → Prop
  | first {a : α} (h : FirstOf Counts fields keys a) : Chosen Counts fields keys default a
  | default (h : NoneOf Counts fields keys) : Chosen Counts fields keys default default

theorem noneOf_cons {key : String} : NoneOf Counts fields (key :: keys) ↔
    (∀ v, Keyed.get? key fields = some v → ∀ a, ¬ Counts v a) ∧ NoneOf Counts fields keys :=
  List.forall_mem_cons

/-- A key that does not count is passed over. -/
theorem firstOf_cons_of_not {key : String}
    (h : ∀ v, Keyed.get? key fields = some v → ∀ a, ¬ Counts v a) :
    FirstOf Counts fields (key :: keys) a ↔ FirstOf Counts fields keys a := by
  constructor
  · rintro ⟨before, winner, after, hkeys, ⟨v, hget, hcounts⟩, hnone⟩
    cases before with
    | nil =>
      obtain ⟨rfl, -⟩ := List.cons.inj hkeys
      exact absurd hcounts (h v hget a)
    | cons first before =>
      obtain ⟨rfl, rfl⟩ := List.cons.inj hkeys
      exact ⟨before, winner, after, rfl, ⟨v, hget, hcounts⟩, (noneOf_cons.mp hnone).2⟩
  · rintro ⟨before, winner, after, rfl, hwinner, hnone⟩
    exact ⟨key :: before, winner, after, rfl, hwinner, noneOf_cons.mpr ⟨h, hnone⟩⟩

theorem chosen_cons_of_not {key : String} {default : α}
    (h : ∀ v, Keyed.get? key fields = some v → ∀ a, ¬ Counts v a) :
    Chosen Counts fields (key :: keys) default a ↔ Chosen Counts fields keys default a := by
  constructor
  · rintro (hfirst | hnone)
    · exact .first ((firstOf_cons_of_not h).mp hfirst)
    · exact .default (noneOf_cons.mp hnone).2
  · rintro (hfirst | hnone)
    · exact .first ((firstOf_cons_of_not h).mpr hfirst)
    · exact .default (noneOf_cons.mpr ⟨h, hnone⟩)

/-- The value under the first key is chosen if it counts, and if it counts as one thing only. -/
theorem chosen_cons_of {key : String} {default b : α} {v : Json}
    (hget : Keyed.get? key fields = some v) (hb : Counts v b) (honly : ∀ a, Counts v a → a = b) :
    Chosen Counts fields (key :: keys) default a ↔ a = b := by
  constructor
  · rintro (⟨before, winner, after, hkeys, ⟨w, hw, hcounts⟩, hnone⟩ | hnone)
    · cases before with
      | nil =>
        obtain ⟨rfl, -⟩ := List.cons.inj hkeys
        obtain rfl := Option.some.inj (hget.symm.trans hw)
        exact honly a hcounts
      | cons first before =>
        obtain ⟨rfl, -⟩ := List.cons.inj hkeys
        exact absurd hb ((noneOf_cons.mp hnone).1 v hget b)
    · exact absurd hb ((noneOf_cons.mp hnone).1 v hget b)
  · rintro rfl
    exact .first ⟨[], key, keys, rfl, ⟨v, hget, hb⟩, by simp [NoneOf]⟩

theorem chosen_nil {default : α} : Chosen Counts fields [] default a ↔ a = default := by
  constructor
  · rintro (⟨before, key, after, hkeys, -⟩ | -)
    · simp at hkeys
    · rfl
  · rintro rfl
    exact .default (by simp [NoneOf])

/-- Something is always chosen. -/
theorem exists_chosen (Counts : Json → α → Prop) (fields : Fields) (keys : List String)
    (default : α) : ∃ a, Chosen Counts fields keys default a := by
  induction keys with
  | nil => exact ⟨default, chosen_nil.mpr rfl⟩
  | cons key keys ih =>
    by_cases hkey : ∃ v a, Keyed.get? key fields = some v ∧ Counts v a
    · obtain ⟨v, a, hget, hcounts⟩ := hkey
      exact ⟨a, .first ⟨[], key, keys, rfl, ⟨v, hget, hcounts⟩, by simp [NoneOf]⟩⟩
    · obtain ⟨a, ha⟩ := ih
      exact ⟨a, (chosen_cons_of_not fun v hget b hb => hkey ⟨v, b, hget, hb⟩).mpr ha⟩

/-- A winner stays one where nothing changes under its key and the keys before it. -/
theorem Wins.congr {before : List String} {key : String} (h : Wins Counts fields before key a)
    (hkey : Keyed.get? key other = Keyed.get? key fields)
    (hbefore : ∀ k ∈ before, Keyed.get? k other = Keyed.get? k fields) :
    Wins Counts other before key a := by
  obtain ⟨⟨v, hget, hcounts⟩, hnone⟩ := h
  refine ⟨⟨v, hkey.trans hget, hcounts⟩, ?_⟩
  intro k hk w hw
  exact hnone k hk w ((hbefore k hk).symm.trans hw)

theorem findSome?_get?_congr {β : Type} (read : String → Option Json → Option β)
    (h : ∀ key ∈ keys, Keyed.get? key other = Keyed.get? key fields) :
    (keys.findSome? fun key => read key (Keyed.get? key other)) =
      keys.findSome? fun key => read key (Keyed.get? key fields) := by
  induction keys with
  | nil => rfl
  | cons key keys ih =>
    obtain ⟨hkey, hkeys⟩ := List.forall_mem_cons.mp h
    rw [List.findSome?_cons, List.findSome?_cons, hkey, ih hkeys]

end First

/-- The value is a text with a character that is not blank. -/
def IsText (v : Json) (text : String) : Prop :=
  v = .string text ∧ Says text

theorem bind_string?_eq_some_iff {found : Option Json} {text : String} :
    found.bind Json.string? = some text ↔ found = some (.string text) := by
  rw [Option.bind_eq_some_iff]
  constructor
  · rintro ⟨v, rfl, hv⟩
    cases v with
    | string s => rw [Option.some.inj hv]
    | _ => cases hv
  · rintro rfl
    exact ⟨.string text, rfl, rfl⟩

theorem filter_text_eq_some_iff {found : Option Json} {text : String} :
    ((found.bind Json.string?).filter fun text => !Text.isBlankText text) = some text ↔
      ∃ v, found = some v ∧ IsText v text := by
  rw [Option.filter_eq_some_iff, bind_string?_eq_some_iff]
  simp [IsText, Text.says_iff]

theorem filter_text_eq_none_iff {found : Option Json} :
    ((found.bind Json.string?).filter fun text => !Text.isBlankText text) = none ↔
      ∀ v, found = some v → ∀ text, ¬ IsText v text := by
  rw [Option.eq_none_iff_forall_ne_some]
  simp only [ne_eq, filter_text_eq_some_iff]
  grind

theorem firstText?_eq_some_iff {fields : Fields} {keys : List String} {text : String} :
    firstText? fields keys = some text ↔ FirstOf IsText fields keys text := by
  rw [firstText?, List.findSome?_eq_some_iff]
  simp only [filter_text_eq_some_iff, filter_text_eq_none_iff]
  rfl

theorem firstText?_eq_none_iff {fields : Fields} {keys : List String} :
    firstText? fields keys = none ↔ NoneOf IsText fields keys := by
  rw [firstText?, List.findSome?_eq_none_iff]
  simp only [filter_text_eq_none_iff]
  rfl

theorem chosen_firstText (fields : Fields) (keys : List String) (default : String) :
    Chosen IsText fields keys default ((firstText? fields keys).getD default) := by
  cases hfound : firstText? fields keys with
  | some text => exact .first (firstText?_eq_some_iff.mp hfound)
  | none => exact .default (firstText?_eq_none_iff.mp hfound)

/-- A text that is there only if it is found, or also if it is called for. -/
theorem optional_text_eq_some_iff {required : Prop} [Decidable required] {fields : Fields}
    {keys : List String} {default text : String} :
    (if required then some ((firstText? fields keys).getD default) else firstText? fields keys) =
        some text ↔
      FirstOf IsText fields keys text ∨
        required ∧ NoneOf IsText fields keys ∧ text = default := by
  rw [← firstText?_eq_some_iff, ← firstText?_eq_none_iff]
  by_cases hrequired : required
  · cases firstText? fields keys <;> simp [hrequired, eq_comm]
  · simp [hrequired]

def IsPresent (v found : Json) : Prop :=
  v = found ∧ v ≠ .null

theorem filter_present_eq_some_iff {found : Option Json} {v : Json} :
    (found.filter fun v => !v.isNull) = some v ↔ ∃ w, found = some w ∧ IsPresent w v := by
  rw [Option.filter_eq_some_iff]
  cases v <;> simp [IsPresent, Json.isNull]

theorem filter_present_eq_none_iff {found : Option Json} :
    (found.filter fun v => !v.isNull) = none ↔ ∀ v, found = some v → ∀ w, ¬ IsPresent v w := by
  rw [Option.eq_none_iff_forall_ne_some]
  simp only [ne_eq, filter_present_eq_some_iff]
  grind

def IsInput (v : Json) (input : Fields) : Prop :=
  v = .object input ∧ input ≠ []

/-- What stands under the key is an object, or a null, or nothing. -/
def InputOrAbsent (members : Fields) (key : String) : Prop :=
  ∀ v, Keyed.get? key members = some v → v = .null ∨ ∃ input, v = .object input

def Describes (v : Json) (action : Action) : Prop :=
  ∃ members, v = .object members ∧ Keyed.get? "tool" members = some (.string action.tool) ∧
    (∀ key ∈ inputKeys, InputOrAbsent members key) ∧
    Chosen IsInput members inputKeys [] action.input

/-- Why a value describes no action. -/
inductive DescribesNone : Json → Prop
  | notObject {v : Json} (h : ∀ members, v ≠ .object members) : DescribesNone v
  | noTool {members : Fields} (h : ∀ name, Keyed.get? "tool" members ≠ some (.string name)) :
      DescribesNone (.object members)
  | inputNotObject {members : Fields} {key : String} {v : Json} (hkey : key ∈ inputKeys)
      (hget : Keyed.get? key members = some v) (hnull : v ≠ .null)
      (h : ∀ input, v ≠ .object input) : DescribesNone (.object members)

/-- All inputs are checked. An input that is held already stays, and if none is, the first one that
is not empty is taken. -/
theorem readInput_eq_ok_iff {members : Fields} {keys : List String} {held input : Fields} :
    readInput members keys held = .ok input ↔
      (∀ key ∈ keys, InputOrAbsent members key) ∧
        if held = [] then Chosen IsInput members keys [] input else input = held := by
  induction keys generalizing held with
  | nil =>
    by_cases hheld : held = []
    · simp [readInput, hheld, chosen_nil, eq_comm]
    · simp [readInput, hheld, eq_comm]
  | cons key keys ih =>
    rw [List.forall_mem_cons, readInput]
    cases hget : Keyed.get? key members with
    | none =>
      have hskip : ∀ v, Keyed.get? key members = some v → ∀ a, ¬ IsInput v a := by
        simp [hget]
      simp [ih, chosen_cons_of_not hskip, InputOrAbsent, hget]
    | some v =>
      cases v with
      | null =>
        have hskip : ∀ v, Keyed.get? key members = some v → ∀ a, ¬ IsInput v a := by
          simp [hget, IsInput]
        simp [ih, chosen_cons_of_not hskip, InputOrAbsent, hget]
      | object candidate =>
        have hkey : InputOrAbsent members key := by simp [InputOrAbsent, hget]
        by_cases hheld : held = []
        · by_cases hempty : candidate = []
          · have hskip : ∀ v, Keyed.get? key members = some v → ∀ a, ¬ IsInput v a := by
              simp [hget, IsInput, hempty]
            simp [ih, chosen_cons_of_not hskip, hkey, hheld, hempty]
          · have hwins : IsInput (.object candidate) candidate := ⟨rfl, hempty⟩
            have honly : ∀ a, IsInput (.object candidate) a → a = candidate :=
              fun a ha => (Json.object.inj ha.1).symm
            simp [ih, chosen_cons_of hget hwins honly, hkey, hheld, hempty]
        · simp [ih, hkey, hheld]
      | _ => simp [InputOrAbsent, hget]

theorem readAction_eq_ok_iff {v : Json} {action : Action} :
    readAction v = .ok action ↔ Describes v action := by
  cases v with
  | object members =>
    simp only [readAction, Json.fields?]
    constructor
    · intro h
      split at h
      · cases h
      · next tool htool =>
        obtain ⟨input, hinput, rfl⟩ := Outcome.map_eq_ok_iff.mp h
        obtain ⟨hinputs, hchosen⟩ := readInput_eq_ok_iff.mp hinput
        exact ⟨members, rfl, bind_string?_eq_some_iff.mp htool, hinputs, by simpa using hchosen⟩
    · rintro ⟨found, hfound, htool, hinputs, hchosen⟩
      obtain rfl := Json.object.inj hfound
      have hinput : readInput members inputKeys [] = .ok action.input :=
        readInput_eq_ok_iff.mpr ⟨hinputs, by simpa using hchosen⟩
      simp only [bind_string?_eq_some_iff.mpr htool, hinput, Except.map]
  | _ => simp [readAction, Describes, Json.fields?]

theorem DescribesNone.not_describes {v : Json} (h : DescribesNone v) (action : Action) :
    ¬ Describes v action := by
  rintro ⟨members, rfl, htool, hinputs, -⟩
  cases h with
  | notObject h => exact h members rfl
  | noTool h => exact h action.tool htool
  | inputNotObject hkey hget hnull h =>
    rcases hinputs _ hkey _ hget with rfl | ⟨input, rfl⟩
    · exact hnull rfl
    · exact h input rfl

theorem describes_or_none (v : Json) : (∃ action, Describes v action) ∨ DescribesNone v := by
  by_cases hobject : ∃ members, v = .object members
  · obtain ⟨members, rfl⟩ := hobject
    by_cases htool : ∃ name, Keyed.get? "tool" members = some (.string name)
    · by_cases hinputs : ∀ key ∈ inputKeys, InputOrAbsent members key
      · obtain ⟨name, hname⟩ := htool
        obtain ⟨input, hinput⟩ := exists_chosen IsInput members inputKeys []
        exact .inl ⟨⟨name, input⟩, members, rfl, hname, hinputs, hinput⟩
      · simp only [InputOrAbsent, not_forall, not_or, not_exists] at hinputs
        obtain ⟨key, hkey, v, hget, hnull, hinput⟩ := hinputs
        exact .inr (.inputNotObject hkey hget hnull hinput)
    · exact .inr (.noTool fun name hname => htool ⟨name, hname⟩)
  · exact .inr (.notObject fun members hv => hobject ⟨members, hv⟩)

/-- Items are read one by one exactly if each of them describes an action. -/
theorem exists_readAs_iff {items : List Json} :
    (∃ actions, ReadAs items actions) ↔ ∀ v ∈ items, ¬ DescribesNone v := by
  induction items with
  | nil => simp [ReadAs]
  | cons v rest ih =>
    rw [List.forall_mem_cons, ← ih]
    constructor
    · rintro ⟨actions, hactions⟩
      obtain ⟨action, others, hread, hothers, rfl⟩ := List.forall₂_cons_left_iff.mp hactions
      exact ⟨fun hnone => hnone.not_describes action (readAction_eq_ok_iff.mp hread),
        others, hothers⟩
    · rintro ⟨hnone, others, hothers⟩
      obtain ⟨action, haction⟩ := (describes_or_none v).resolve_right hnone
      exact ⟨action :: others, .cons (readAction_eq_ok_iff.mpr haction) hothers⟩

theorem readAs_iff {items : List Json} {actions : List Action} :
    ReadAs items actions ↔ List.Forall₂ Describes items actions := by
  simp only [ReadAs, readAction_eq_ok_iff]

theorem firstPresent?_eq_none_iff {fields : Fields} {keys : List String} :
    firstPresent? fields keys = none ↔ NoneOf IsPresent fields keys := by
  rw [firstPresent?, List.findSome?_eq_none_iff]
  simp only [Option.map_eq_none_iff, filter_present_eq_none_iff]
  rfl

theorem exists_firstPresent?_iff {fields : Fields} {keys : List String} {v : Json} :
    (∃ key, firstPresent? fields keys = some (key, v)) ↔ FirstOf IsPresent fields keys v := by
  simp only [firstPresent?, List.findSome?_eq_some_iff, Option.map_eq_some_iff,
    Option.map_eq_none_iff, filter_present_eq_some_iff, filter_present_eq_none_iff]
  constructor
  · rintro ⟨_, before, key, after, rfl, ⟨_, hv, heq⟩, hnone⟩
    obtain ⟨rfl, rfl⟩ := Prod.mk.inj heq
    exact ⟨before, key, after, rfl, hv, hnone⟩
  · rintro ⟨before, key, after, rfl, hv, hnone⟩
    exact ⟨key, before, key, after, rfl, ⟨v, hv, rfl⟩, hnone⟩

/-- These are the items in the place of the actions, and there are none if nothing stands there. -/
def ListsActions (fields : Fields) (items : List Json) : Prop :=
  Chosen IsPresent fields actionsKeys (.array []) (.array items)

/-- The actions are those that the first list describes, item by item. -/
theorem readActions_eq_ok_iff {fields : Fields} {actions : List Action} :
    readActions fields = .ok actions ↔
      ∃ items, ListsActions fields items ∧ List.Forall₂ Describes items actions := by
  unfold readActions
  constructor
  · intro h
    split at h
    · next hnone =>
      obtain rfl := Except.ok.inj h
      exact ⟨[], .default (firstPresent?_eq_none_iff.mp hnone), .nil⟩
    · next key items hfirst =>
      exact ⟨items, .first (exists_firstPresent?_iff.mp ⟨key, hfirst⟩),
        readAs_iff.mp (readActionList_eq_ok_iff.mp h)⟩
    · cases h
  · rintro ⟨items, hchosen, hdescribes⟩
    rw [ListsActions] at hchosen
    generalize hv : Json.array items = v at hchosen
    cases hchosen with
    | first hfirst =>
      obtain ⟨key, hkey⟩ := exists_firstPresent?_iff.mpr hfirst
      subst hv
      rw [hkey]
      exact readActionList_eq_ok_iff.mpr (readAs_iff.mpr hdescribes)
    | default hnone =>
      obtain rfl := Json.array.inj hv
      cases hdescribes
      rw [firstPresent?_eq_none_iff.mpr hnone]

def textKeys : List (List String) :=
  [["reasoning"], templateKeys, requestKeys, errorKeys]

/-- No key stands twice for a text, or for a text and another field. -/
theorem textKeys_apart : ∀ keys ∈ textKeys, keys.Nodup ∧
    (∀ k ∈ "status" :: actionsKeys, k ∉ keys) ∧
    ∀ others ∈ textKeys, others ≠ keys → ∀ k ∈ others, k ∉ keys := by
  decide

/-- The texts of a plan are the first ones that say something. Those that a plan cannot do without
are the default texts otherwise. -/
structure TextsFrom (plan : Plan) (fields : Fields) : Prop where
  reasoning : Chosen IsText fields ["reasoning"] "" plan.reasoning
  answerTemplate : Chosen IsText fields templateKeys "" plan.answerTemplate
  request : ∀ text, plan.request = some text ↔ FirstOf IsText fields requestKeys text ∨
    plan.status = .needsInfo ∧ NoneOf IsText fields requestKeys ∧ text = defaultRequest
  errorMessage : ∀ text, plan.errorMessage = some text ↔ FirstOf IsText fields errorKeys text ∨
    plan.status = .error ∧ NoneOf IsText fields errorKeys ∧ text = defaultError

theorem ReadFrom.textsFrom {plan : Plan} {fields : Fields} (h : plan.ReadFrom fields) :
    plan.TextsFrom fields where
  reasoning := h.reasoning ▸ chosen_firstText fields ["reasoning"] ""
  answerTemplate := h.answerTemplate ▸ chosen_firstText fields templateKeys ""
  request text := by rw [h.request, optional_text_eq_some_iff]
  errorMessage text := by rw [h.errorMessage, optional_text_eq_some_iff]

section Object

variable {fields other : Fields}

/-- Nothing but the fields of a plan matters to it. -/
theorem ofFields_congr
    (hkeys : ∀ key ∈ "status" :: actionsKeys, Keyed.get? key other = Keyed.get? key fields)
    (htexts : ∀ keys ∈ textKeys, firstText? other keys = firstText? fields keys) :
    ofFields other = ofFields fields := by
  obtain ⟨hstatus, hactions⟩ := List.forall_mem_cons.mp hkeys
  have hpresent : firstPresent? other actionsKeys = firstPresent? fields actionsKeys :=
    findSome?_get?_congr (fun key found => (found.filter fun v : Json => !v.isNull).map
      fun v => (key, v)) hactions
  have hread : readActions other = readActions fields := by
    unfold readActions
    rw [hpresent]
  simp only [textKeys, List.forall_mem_cons] at htexts
  obtain ⟨hreasoning, htemplate, hrequest, herror, -⟩ := htexts
  simp only [ofFields, hstatus, hread, hreasoning, htemplate, hrequest, herror]

/-- What stands behind the winner of a text changes nothing in the plan. -/
theorem ofFields_congr_behind {keys before after : List String} {key text : String}
    (hkeys : keys ∈ textKeys) (hsplit : keys = before ++ key :: after)
    (hwins : Wins IsText fields before key text)
    (hsame : ∀ k, k ∉ after → Keyed.get? k other = Keyed.get? k fields) :
    ofFields other = ofFields fields := by
  obtain ⟨hnodup, hothers, htexts⟩ := textKeys_apart keys hkeys
  have hafter : ∀ k ∈ after, k ∈ keys := by
    intro k hk
    simp [hsplit, hk]
  have hfront : ∀ k ∈ before ++ [key], k ∉ after := by
    intro k hk hmem
    rw [hsplit, List.append_cons] at hnodup
    exact (List.nodup_append.mp hnodup).2.2 k hk k hmem rfl
  apply ofFields_congr
  · exact fun k hk => hsame k fun hmem => hothers k hk (hafter k hmem)
  · intro texts htext
    by_cases heq : texts = keys
    · have hother : Wins IsText other before key text :=
        hwins.congr (hsame key (hfront key (by simp)))
          fun k hk => hsame k (hfront k (by simp [hk]))
      rw [heq, firstText?_eq_some_iff.mpr ⟨before, key, after, hsplit, hwins⟩,
        firstText?_eq_some_iff.mpr ⟨before, key, after, hsplit, hother⟩]
    · have hapart := htexts texts htext heq
      exact findSome?_get?_congr (fun _ found => (found.bind Json.string?).filter
        fun text => !Text.isBlankText text)
        fun k hk => hsame k fun hmem => hapart k hk (hafter k hmem)

/-- A plan is read unless the list of a success has an item that describes no action, or what
stands first in the place of the list is no list. -/
theorem exists_plan_iff {status : PlanStatus} (hstatus : statusOf? fields = some status) :
    (∃ plan, ofFields fields = .ok plan) ↔
      (status = .success → ∃ items, ListsActions fields items ∧
        ∀ v ∈ items, ¬ DescribesNone v) := by
  have hactions : (∃ items, ListsActions fields items ∧ ∀ v ∈ items, ¬ DescribesNone v) ↔
      ∃ actions, readActions fields = .ok actions := by
    simp only [readActions_eq_ok_iff, ← exists_readAs_iff, readAs_iff]
    exact ⟨fun ⟨items, hitems, actions, h⟩ => ⟨actions, items, hitems, h⟩,
      fun ⟨actions, items, hitems, h⟩ => ⟨items, hitems, actions, h⟩⟩
  rw [hactions]
  constructor
  · rintro ⟨plan, hplan⟩ rfl
    exact ⟨plan.actions, readActions_of_ofFields hstatus hplan⟩
  · intro hread
    by_cases hsuccess : status = .success
    · obtain ⟨actions, hread⟩ := hread hsuccess
      exact exists_ofFields hstatus ((if_pos hsuccess).trans hread)
    · have hnone : (if status = .success then readActions fields else .ok []) = .ok [] :=
        if_neg hsuccess
      exact exists_ofFields hstatus hnone

end Object

/-- For every reply with an object whose status is recognized:

* every text of a plan that is read from it is the first one under its keys that says something,
  and the input of every action of a success is the first one under its keys that is not empty;
* what stands behind the winner of a text changes nothing in the outcome;
* a plan is read unless something in the place of the actions of a success keeps it from being
  read, and for a list under the first key this is an item that is no object, has no tool, or has a
  value under one of the keys of inputs that is neither a null nor an object. -/
theorem first_spelling_counts {reply : String} {fields : Fields} {status : PlanStatus}
    (hobject : extractObject? reply = some fields) (hstatus : statusOf? fields = some status) :
    (∀ plan, ofReply reply = .ok plan → plan.status = status ∧ plan.TextsFrom fields ∧
      (status = .success → ∃ items, ListsActions fields items ∧
        List.Forall₂ Describes items plan.actions)) ∧
    (∀ keys ∈ textKeys, ∀ before key after text, keys = before ++ key :: after →
      Wins IsText fields before key text → ∀ changed other, extractObject? changed = some other →
        (∀ k, k ∉ after → Keyed.get? k other = Keyed.get? k fields) →
          ofReply changed = ofReply reply) ∧
    ((∃ plan, ofReply reply = .ok plan) ↔ (status = .success → ∃ items,
      ListsActions fields items ∧ ∀ v ∈ items, ¬ DescribesNone v)) ∧
    ∀ items, Keyed.get? "actions" fields = some (.array items) →
      ((∃ fault, ofReply reply = .error fault) ↔
        status = .success ∧ ∃ v ∈ items, DescribesNone v) := by
  have hreply : ofReply reply = ofFields fields := by rw [ofReply, hobject]
  rw [hreply]
  refine ⟨?_, ?_, exists_plan_iff hstatus, ?_⟩
  · intro plan hplan
    have hread := readFrom_of_ofFields hplan
    have hsame : plan.status = status := Option.some.inj (hread.status.symm.trans hstatus)
    refine ⟨hsame, hread.textsFrom, ?_⟩
    rintro rfl
    exact readActions_eq_ok_iff.mp (readActions_of_ofFields hstatus hplan)
  · intro keys hkeys before key after text hsplit hwins changed other hother hsame
    rw [ofReply, hother]
    exact ofFields_congr_behind hkeys hsplit hwins hsame
  · intro items hitems
    have hpresent : IsPresent (.array items) (.array items) := ⟨rfl, by simp⟩
    have hchosen : ∀ others, ListsActions fields others ↔ others = items := by
      intro others
      rw [ListsActions, actionsKeys, chosen_cons_of hitems hpresent fun v hv => hv.1.symm,
        Json.array.injEq]
    rw [Outcome.exists_error_iff, exists_plan_iff hstatus]
    simp [hchosen]

/-- The first template that is there wins, and the one behind it may as well be left out. The empty
input gives way to the parameters behind it. -/
theorem first_spelling_counts_template :
    let reply := "\x7b\"status\":\"success\"," ++
      "\"tools\":[\x7b\"tool\":\"t\",\"input\":\x7b\x7d,\"params\":\x7b\"p\":\"\"\x7d\x7d]," ++
      "\"template\":\"A\",\"answer\":\"B\"\x7d"
    let changed := "\x7b\"status\":\"success\"," ++
      "\"tools\":[\x7b\"tool\":\"t\",\"input\":\x7b\x7d,\"params\":\x7b\"p\":\"\"\x7d\x7d]," ++
      "\"template\":\"A\"\x7d"
    let plan : Plan := ⟨.success, "", [⟨"t", [("p", .string "")]⟩], "A", none, none⟩
    ∃ fields, extractObject? reply = some fields ∧ statusOf? fields = some .success ∧
      ofReply reply = .ok plan ∧ plan.TextsFrom fields ∧ ofReply changed = .ok plan := by
  intro reply changed plan
  let fields : Fields := [("answer", .string "B"), ("status", .string "success"),
    ("template", .string "A"), ("tools", .array [.object [("input", .object []),
      ("params", .object [("p", .string "")]), ("tool", .string "t")]])]
  -- The texts are written out again, since the reader does not compute under a local definition.
  have hobject : extractObject? ("\x7b\"status\":\"success\"," ++
      "\"tools\":[\x7b\"tool\":\"t\",\"input\":\x7b\x7d,\"params\":\x7b\"p\":\"\"\x7d\x7d]," ++
      "\"template\":\"A\",\"answer\":\"B\"\x7d") = some fields := by
    rfl
  have hchanged : extractObject? ("\x7b\"status\":\"success\"," ++
      "\"tools\":[\x7b\"tool\":\"t\",\"input\":\x7b\x7d,\"params\":\x7b\"p\":\"\"\x7d\x7d]," ++
      "\"template\":\"A\"\x7d") = some fields.tail := by
    rfl
  have hplan : ofReply reply = .ok plan := by
    rw [ofReply, show extractObject? reply = some fields from hobject]
    rfl
  have hstatus : statusOf? fields = some .success := by rfl
  have hwins : Wins IsText fields ["answerTemplate", "answer_template"] "template" "A" := by
    refine ⟨⟨_, rfl, rfl, 'A', by decide, by decide⟩, ?_⟩
    simp [NoneOf, fields, Keyed.get?_cons, Keyed.get?_nil]
  have hsame : ∀ k, k ∉ ["answer"] → Keyed.get? k fields.tail = Keyed.get? k fields := by
    intro k hk
    have hne : k ≠ "answer" := by simpa using hk
    simp [fields, Keyed.get?_cons, hne]
  obtain ⟨hplans, hbehind, -, -⟩ := first_spelling_counts hobject hstatus
  refine ⟨fields, hobject, hstatus, hplan, (hplans plan hplan).2.1, ?_⟩
  exact (hbehind templateKeys (by simp [textKeys]) _ _ _ _ rfl hwins _ _ hchanged hsame).trans hplan

end MarketQuery.Plan
