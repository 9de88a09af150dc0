import Mathlib.Data.List.Forall2
import MarketQuery.Proofs.Plan.Statuses

/-!
Which list of actions a plan is read from. An object may hold lists under several spellings. The
plan takes the first list that is there, item by item, and it takes an empty one as well: a later
list is then hidden, although it has actions. `firstFilled` is the list that the rule "the first
one that is not empty" asks for, and the two part exactly where the first list hides another one.
-/
namespace MarketQuery.Plan

/-- What stands under the key is a list, or a null, or nothing. -/
def ListOrAbsent (fields : Fields) (key : String) : Prop :=
  ∀ v, Keyed.get? key fields = some v → v = .null ∨ ∃ items, v = .array items

def listsUnder (fields : Fields) (keys : List String) : List (List Json) :=
  keys.filterMap fun key => (Keyed.get? key fields).bind Json.items?

/-- The first list under a spelling of the actions, or the empty list. -/
def firstListed (fields : Fields) : List Json :=
  (listsUnder fields actionsKeys).head?.getD []

/-- The first list under a spelling of the actions that is not empty, or the empty list. -/
def firstFilled (fields : Fields) : List Json :=
  ((listsUnder fields actionsKeys).find? fun items => !items.isEmpty).getD []

/-- The first list under a spelling of the actions is empty, and a later one is not. -/
def Hides (fields : Fields) : Prop :=
  ∃ rest, listsUnder fields actionsKeys = [] :: rest ∧ ∃ items ∈ rest, items ≠ []

def ReadAs (items : List Json) (actions : List Action) : Prop :=
  List.Forall₂ (fun v action => readAction v = .ok action) items actions

/-- The first item that is not read as an action has the index and the fault. -/
def FailsAt (items : List Json) (index : Nat) (fault : ActionFault) : Prop :=
  ∃ before v rest actions, items = before ++ v :: rest ∧ before.length = index ∧
    ReadAs before actions ∧ readAction v = .error fault

theorem readActionList_eq_ok_iff {index : Nat} {items : List Json} {actions : List Action} :
    readActionList index items = .ok actions ↔ ReadAs items actions := by
  induction items generalizing index actions with
  | nil => simp [readActionList, ReadAs, eq_comm]
  | cons v rest ih =>
    simp only [readActionList, ReadAs, List.forall₂_cons_left_iff]
    cases hread : readAction v with
    | error fault => simp
    | ok action =>
      simp only [Outcome.map_eq_ok_iff, ih]
      constructor
      · rintro ⟨others, hothers, rfl⟩
        exact ⟨action, others, rfl, hothers, rfl⟩
      · rintro ⟨head, others, hhead, hothers, rfl⟩
        obtain rfl := Except.ok.inj hhead
        exact ⟨others, hothers, rfl⟩

/-- What follows items that are read is read as if it stood alone, but for its indices. -/
theorem readActionList_append {before : List Json} {actions : List Action}
    (h : ReadAs before actions) (index : Nat) (rest : List Json) :
    readActionList index (before ++ rest) =
      (readActionList (index + before.length) rest).map (actions ++ ·) := by
  induction h generalizing index with
  | nil => cases hrest : readActionList index rest <;> simp [Except.map, hrest]
  | @cons v action before actions hread _ ih =>
    have hindex : index + 1 + before.length = index + (before.length + 1) := by omega
    simp only [List.cons_append, readActionList, hread, ih, List.length_cons, hindex]
    cases readActionList (index + (before.length + 1)) rest <;> rfl

theorem readActionList_of_failsAt {items : List Json} {index : Nat} {fault : ActionFault}
    (h : FailsAt items index fault) : readActionList 0 items = .error (.action index fault) := by
  obtain ⟨before, v, rest, actions, rfl, rfl, hbefore, hv⟩ := h
  rw [readActionList_append hbefore]
  simp [readActionList, hv, Except.map]

/-- Either every item is read, or one of them is the first that is not. -/
theorem readAs_or_failsAt (items : List Json) :
    (∃ actions, ReadAs items actions) ∨ ∃ index fault, FailsAt items index fault := by
  induction items with
  | nil => exact .inl ⟨[], .nil⟩
  | cons v rest ih =>
    cases hread : readAction v with
    | error fault => exact .inr ⟨0, fault, [], v, rest, [], rfl, rfl, .nil, hread⟩
    | ok action =>
      obtain ⟨actions, hactions⟩ | ⟨index, fault, hfails⟩ := ih
      · exact .inl ⟨action :: actions, .cons hread hactions⟩
      · obtain ⟨before, w, after, actions, rfl, rfl, hbefore, hw⟩ := hfails
        exact .inr ⟨_, fault, v :: before, w, after, action :: actions, rfl, rfl,
          .cons hread hbefore, hw⟩

theorem readActionList_eq_error_iff {items : List Json} {fault : PlanFault} :
    readActionList 0 items = .error fault ↔
      ∃ index what, FailsAt items index what ∧ fault = .action index what := by
  constructor
  · intro h
    obtain ⟨actions, hactions⟩ | ⟨index, what, hfails⟩ := readAs_or_failsAt items
    · rw [readActionList_eq_ok_iff.mpr hactions] at h
      cases h
    · rw [readActionList_of_failsAt hfails] at h
      exact ⟨index, what, hfails, (Except.error.inj h).symm⟩
  · rintro ⟨index, what, hfails, rfl⟩
    exact readActionList_of_failsAt hfails

theorem listsUnder_cons (fields : Fields) (key : String) (keys : List String) :
    listsUnder fields (key :: keys) =
      (((Keyed.get? key fields).bind Json.items?).toList ++ listsUnder fields keys) := by
  cases h : (Keyed.get? key fields).bind Json.items? <;> simp [listsUnder, h]

theorem firstPresent?_cons (fields : Fields) (key : String) (keys : List String) :
    firstPresent? fields (key :: keys) =
      ((((Keyed.get? key fields).filter fun v => !v.isNull).map fun v => (key, v)).or
        (firstPresent? fields keys)) := by
  rw [firstPresent?, List.findSome?_cons]
  split
  · next found hfound => rw [hfound, Option.some_or]
  · next hnone => rw [hnone, Option.none_or, firstPresent?]

/-- Where no other value stands under the keys, the first that is present is the first list. -/
theorem firstPresent?_of_lists {fields : Fields} {keys : List String}
    (h : ∀ key ∈ keys, ListOrAbsent fields key) :
    (firstPresent? fields keys).map Prod.snd = (listsUnder fields keys).head?.map .array := by
  induction keys with
  | nil => rfl
  | cons key keys ih =>
    have hrest := ih fun other hother => h other (List.mem_cons_of_mem key hother)
    rw [firstPresent?_cons, listsUnder_cons]
    cases hget : Keyed.get? key fields with
    | none => simpa using hrest
    | some v =>
      obtain rfl | ⟨items, rfl⟩ := h key List.mem_cons_self v hget
      · simpa [Option.filter_some, Json.isNull, Json.items?] using hrest
      · simp [Option.filter_some, Json.isNull, Json.items?]

theorem readActions_of_lists {fields : Fields}
    (h : ∀ key ∈ actionsKeys, ListOrAbsent fields key) :
    readActions fields = readActionList 0 (firstListed fields) := by
  have hfirst := firstPresent?_of_lists h
  unfold readActions firstListed
  cases hpresent : firstPresent? fields actionsKeys with
  | none =>
    rw [hpresent] at hfirst
    simp [Option.map_eq_none_iff.mp hfirst.symm, readActionList]
  | some found =>
    obtain ⟨key, v⟩ := found
    rw [hpresent] at hfirst
    obtain ⟨items, hhead, rfl⟩ := Option.map_eq_some_iff.mp hfirst.symm
    simp [hhead]

theorem firstFilled_eq_nil_iff {fields : Fields} :
    firstFilled fields = [] ↔ ∀ items ∈ listsUnder fields actionsKeys, items = [] := by
  unfold firstFilled
  cases hfind : (listsUnder fields actionsKeys).find? fun items => !items.isEmpty with
  | none =>
    rw [List.find?_eq_none] at hfind
    simpa using hfind
  | some items =>
    have hne : items ≠ [] := by simpa using List.find?_some hfind
    exact iff_of_false hne fun hempty => hne (hempty items (List.mem_of_find?_eq_some hfind))

theorem firstListed_eq_nil_of_hides {fields : Fields} (h : Hides fields) :
    firstListed fields = [] := by
  obtain ⟨rest, hlists, -⟩ := h
  simp [firstListed, hlists]

/-- An empty first list is no loss where all lists are empty. -/
theorem not_hides_of_empty {fields : Fields}
    (h : ∀ items ∈ listsUnder fields actionsKeys, items = []) : ¬ Hides fields := by
  rintro ⟨rest, hlists, items, hitems, hne⟩
  exact hne (h items (by rw [hlists]; exact List.mem_cons_of_mem _ hitems))

/-- The two lists are one unless the first list hides another. -/
theorem firstFilled_of_not_hides {fields : Fields} (h : ¬ Hides fields) :
    firstFilled fields = firstListed fields := by
  cases hlists : listsUnder fields actionsKeys with
  | nil => simp [firstFilled, firstListed, hlists]
  | cons first rest =>
    cases first with
    | cons v items => simp [firstFilled, firstListed, hlists]
    | nil =>
      have hrest : ∀ items ∈ rest, items = [] := by
        intro items hitems
        by_contra hne
        exact h ⟨rest, hlists, items, hitems, hne⟩
      rw [firstFilled_eq_nil_iff.mpr (by simpa [hlists] using hrest)]
      simp [firstListed, hlists]

theorem eq_nil_iff_of_readAs {items : List Json} {actions : List Action}
    (h : ReadAs items actions) : actions = [] ↔ items = [] := by
  cases h <;> simp

/-- A plan without actions speaks for every list unless the first one hides another. -/
theorem lists_empty_iff {fields : Fields} {actions : List Action}
    (h : ReadAs (firstListed fields) actions) :
    (actions = [] → ∀ items ∈ listsUnder fields actionsKeys, items = []) ↔
      ¬ Hides fields := by
  constructor
  · intro hempty hhides
    have hnone := (eq_nil_iff_of_readAs h).mpr (firstListed_eq_nil_of_hides hhides)
    exact not_hides_of_empty (hempty hnone) hhides
  · intro hhides hnone
    rw [← firstFilled_eq_nil_iff, firstFilled_of_not_hides hhides]
    exact (eq_nil_iff_of_readAs h).mp hnone

theorem readAs_firstFilled_iff {fields : Fields} {actions : List Action}
    (h : ReadAs (firstListed fields) actions) :
    ReadAs (firstFilled fields) actions ↔ ¬ Hides fields := by
  constructor
  · intro hfilled
    apply (lists_empty_iff h).mp
    intro hnone
    exact firstFilled_eq_nil_iff.mp ((eq_nil_iff_of_readAs hfilled).mp hnone)
  · intro hhides
    rwa [firstFilled_of_not_hides hhides]

section Success

variable {fields : Fields} (hstatus : statusOf? fields = some .success)

include hstatus

theorem readActions_of_ofFields {plan : Plan} (h : ofFields fields = .ok plan) :
    readActions fields = .ok plan.actions := by
  have hread := readFrom_of_ofFields h
  have hsuccess : plan.status = .success := Option.some.inj (hread.status.symm.trans hstatus)
  simpa [hsuccess] using hread.actions

theorem exists_ofFields_iff {actions : List Action} :
    (∃ plan, ofFields fields = .ok plan ∧ plan.actions = actions) ↔
      readActions fields = .ok actions := by
  constructor
  · rintro ⟨plan, hplan, rfl⟩
    exact readActions_of_ofFields hstatus hplan
  · intro hactions
    obtain ⟨plan, hplan⟩ := exists_ofFields hstatus ((if_pos rfl).trans hactions)
    have hsame := readActions_of_ofFields hstatus hplan
    rw [hactions] at hsame
    exact ⟨plan, hplan, (Except.ok.inj hsame).symm⟩

theorem ofFields_eq_error_iff {fault : PlanFault} :
    ofFields fields = .error fault ↔ readActions fields = .error fault := by
  obtain ⟨text, htext, hofText⟩ := Option.bind_eq_some_iff.mp hstatus
  simp only [ofFields, htext, hofText, if_true]
  cases readActions fields <;> simp [bind, Except.bind]

end Success

/-- The actions of a success are those of the first list that is there, item by item. The first
list that is not empty is the one that counts just where the first list hides no other. -/
theorem actions_of_first_list {reply : String} {fields : Fields}
    (hobject : extractObject? reply = some fields) (hstatus : statusOf? fields = some .success)
    (hlists : ∀ key ∈ actionsKeys, ListOrAbsent fields key) :
    (∀ actions, (∃ plan, ofReply reply = .ok plan ∧ plan.actions = actions) ↔
      ReadAs (firstListed fields) actions) ∧
    (∀ fault, ofReply reply = .error fault ↔
      ∃ index what, FailsAt (firstListed fields) index what ∧ fault = .action index what) ∧
    ∀ plan, ofReply reply = .ok plan →
      (plan.actions = [] ↔ firstListed fields = []) ∧
      (ReadAs (firstFilled fields) plan.actions ↔ ¬ Hides fields) ∧
      ((plan.actions = [] → ∀ items ∈ listsUnder fields actionsKeys, items = []) ↔
        ¬ Hides fields) := by
  have hreply : ofReply reply = ofFields fields := by rw [ofReply, hobject]
  have hread : ∀ actions, (∃ plan, ofReply reply = .ok plan ∧ plan.actions = actions) ↔
      ReadAs (firstListed fields) actions := by
    intro actions
    rw [hreply, exists_ofFields_iff hstatus, readActions_of_lists hlists, readActionList_eq_ok_iff]
  refine ⟨hread, ?_, ?_⟩
  · intro fault
    rw [hreply, ofFields_eq_error_iff hstatus, readActions_of_lists hlists,
      readActionList_eq_error_iff]
  · intro plan hplan
    have hactions := (hread plan.actions).mp ⟨plan, hplan, rfl⟩
    exact ⟨eq_nil_iff_of_readAs hactions, readAs_firstFilled_iff hactions,
      lists_empty_iff hactions⟩

/-- A null hides nothing: the actions are those under the second spelling. -/
theorem actions_of_first_list_null :
    ∃ fields, extractObject? ("\x7b\"status\":\"success\",\"actions\":null," ++
        "\"tools\":[\x7b\"tool\":\"get_pool\"\x7d]\x7d") = some fields ∧
      statusOf? fields = some .success ∧ (∀ key ∈ actionsKeys, ListOrAbsent fields key) ∧
      ¬ Hides fields ∧
      ∃ plan, ofReply ("\x7b\"status\":\"success\",\"actions\":null," ++
        "\"tools\":[\x7b\"tool\":\"get_pool\"\x7d]\x7d") = .ok plan ∧
        plan.actions = [⟨"get_pool", []⟩] := by
  have hobject : extractObject? ("\x7b\"status\":\"success\",\"actions\":null," ++
      "\"tools\":[\x7b\"tool\":\"get_pool\"\x7d]\x7d") =
      some [("actions", .null), ("status", .string "success"),
        ("tools", .array [.object [("tool", .string "get_pool")]])] := by rfl
  have hlists : ∀ key ∈ actionsKeys, ListOrAbsent
      [("actions", .null), ("status", .string "success"),
        ("tools", .array [.object [("tool", .string "get_pool")]])] key := by
    simp [actionsKeys, ListOrAbsent, Keyed.get?_cons, Keyed.get?_nil]
  obtain ⟨hread, -, hplan⟩ := actions_of_first_list hobject (by rfl) hlists
  obtain ⟨plan, hok, hactions⟩ := (hread [⟨"get_pool", []⟩]).mpr (.cons rfl .nil)
  refine ⟨_, hobject, by rfl, hlists, ?_, plan, hok, hactions⟩
  exact (hplan plan hok).2.1.mp (by rw [hactions]; exact .cons rfl .nil)

/-- An empty list under the first spelling hides the action under the second. -/
theorem empty_list_hides_action :
    ∃ fields, extractObject? ("\x7b\"status\":\"success\",\"actions\":[]," ++
        "\"tools\":[\x7b\"tool\":\"get_pool\"\x7d]\x7d") = some fields ∧
      statusOf? fields = some .success ∧ (∀ key ∈ actionsKeys, ListOrAbsent fields key) ∧
      firstFilled fields = [.object [("tool", .string "get_pool")]] ∧
      ReadAs (firstFilled fields) [⟨"get_pool", []⟩] ∧
      ∃ plan, ofReply ("\x7b\"status\":\"success\",\"actions\":[]," ++
        "\"tools\":[\x7b\"tool\":\"get_pool\"\x7d]\x7d") = .ok plan ∧
        plan.actions = [] ∧ ¬ ReadAs (firstFilled fields) plan.actions := by
  have hlists : ∀ key ∈ actionsKeys, ListOrAbsent
      [("actions", .array []), ("status", .string "success"),
        ("tools", .array [.object [("tool", .string "get_pool")]])] key := by
    simp [actionsKeys, ListOrAbsent, Keyed.get?_cons, Keyed.get?_nil]
  refine ⟨_, by rfl, by rfl, hlists, by rfl, .cons rfl .nil, _, by rfl, by rfl, ?_⟩
  intro hread
  exact List.cons_ne_nil _ _ ((eq_nil_iff_of_readAs hread).mp rfl)

end MarketQuery.Plan
