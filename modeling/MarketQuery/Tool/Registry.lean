import MarketQuery.Keyed
import MarketQuery.Tool.Definition

/-!
The registry of tools. Tools are listed in the order of registration, and an index leads from a name
to the place of its tool in this list. No registry can be built in which the two disagree, so no two
tools have one name, and a name leads to the tool that bears it (`find?_eq_some_iff`).
-/
namespace MarketQuery

variable {σ : Type}

/-- A name leads to the place where the tool of that name stands, and to no other. -/
def Placed (tools : List (Tool σ)) (index : List (String × Nat)) : Prop :=
  ∀ name place, Keyed.get? name index = some place ↔
    ∃ t, tools[place]? = some t ∧ t.definition.name = name

structure Registry (σ : Type) where
  tools : List (Tool σ)
  /-- The place of each tool, under its name. -/
  index : List (String × Nat)
  placed : Placed tools index

/-- The name is taken. -/
structure DuplicateTool where
  name : String

def DuplicateTool.message (e : DuplicateTool) : String :=
  "Tool '" ++ e.name ++ "' is already registered"

namespace Placed

variable {tools : List (Tool σ)} {index : List (String × Nat)}

theorem nil : Placed ([] : List (Tool σ)) [] := by
  simp [Placed, Keyed.get?_nil]

theorem get?_of_mem (h : Placed tools index) {t : Tool σ} (hmem : t ∈ tools) :
    ∃ place, tools[place]? = some t ∧ Keyed.get? t.definition.name index = some place := by
  obtain ⟨place, hplace⟩ := List.getElem?_of_mem hmem
  exact ⟨place, hplace, (h t.definition.name place).mpr ⟨t, hplace, rfl⟩⟩

theorem get?_eq_none_iff (h : Placed tools index) {name : String} :
    Keyed.get? name index = none ↔ ∀ t ∈ tools, t.definition.name ≠ name := by
  constructor
  · rintro hnone t hmem rfl
    obtain ⟨place, -, hsome⟩ := h.get?_of_mem hmem
    simp [hnone] at hsome
  · intro hnew
    rw [Option.eq_none_iff_forall_ne_some]
    intro place hplace
    obtain ⟨t, ht, hname⟩ := (h name place).mp hplace
    exact hnew t (List.mem_of_getElem? ht) hname

theorem getElem?_concat_eq_some_iff {t u : Tool σ} {place : Nat} :
    (tools ++ [t])[place]? = some u ↔ tools[place]? = some u ∨ (place = tools.length ∧ t = u) := by
  rcases Nat.lt_trichotomy place tools.length with hlt | rfl | hgt
  · simp [List.getElem?_append_left hlt, Nat.ne_of_lt hlt]
  · simp
  · have hout : (tools ++ [t])[place]? = none := by
      rw [List.getElem?_eq_none_iff, List.length_append]
      exact hgt
    simp [hout, List.getElem?_eq_none (Nat.le_of_lt hgt), Nat.ne_of_gt hgt]

/-- A tool with a new name is put at the end of both. -/
theorem concat (h : Placed tools index) {t : Tool σ}
    (hnew : Keyed.get? t.definition.name index = none) :
    Placed (tools ++ [t]) (index ++ [(t.definition.name, tools.length)]) := by
  intro name place
  have hget : Keyed.get? name (index ++ [(t.definition.name, tools.length)]) =
      (Keyed.get? name index).or (if name = t.definition.name then some tools.length else none) := by
    rw [Keyed.get?, List.lookup_append]
    exact congrArg _ (Keyed.get?_cons name t.definition.name tools.length [])
  rw [hget]
  constructor
  · intro hsome
    rcases Option.or_eq_some_iff.mp hsome with hold | ⟨-, hlast⟩
    · obtain ⟨u, hu, hname⟩ := (h name place).mp hold
      exact ⟨u, getElem?_concat_eq_some_iff.mpr (.inl hu), hname⟩
    · split at hlast
      · next hname =>
        obtain rfl := Option.some.inj hlast
        exact ⟨t, getElem?_concat_eq_some_iff.mpr (.inr ⟨rfl, rfl⟩), hname.symm⟩
      · simp at hlast
  · rintro ⟨u, hu, rfl⟩
    rcases getElem?_concat_eq_some_iff.mp hu with hold | ⟨rfl, rfl⟩
    · rw [(h u.definition.name place).mpr ⟨u, hold, rfl⟩, Option.some_or]
    · rw [hnew, Option.none_or, if_pos rfl]

/-- The entries of tools that stand from some place on. -/
def entries (tools : List (Tool σ)) (first : Nat) : List (String × Nat) :=
  (tools.zipIdx first).map fun e => (e.1.definition.name, e.2)

/-- So are all tools whose names are new and differ. -/
theorem append (h : Placed tools index) {more : List (Tool σ)}
    (hnodup : ((tools ++ more).map fun t => t.definition.name).Nodup) :
    Placed (tools ++ more) (index ++ entries more tools.length) := by
  induction more generalizing tools index with
  | nil => simpa [entries] using h
  | cons t rest ih =>
    have hnew : Keyed.get? t.definition.name index = none := by
      rw [h.get?_eq_none_iff]
      intro u hu
      rw [List.map_append, List.nodup_append] at hnodup
      exact hnodup.2.2 _ (List.mem_map_of_mem hu) _ List.mem_cons_self
    have hrest := ih (h.concat hnew) (by simpa using hnodup)
    simpa [entries] using hrest

end Placed

namespace Registry

def empty : Registry σ := ⟨[], [], .nil⟩

/-- Tools with different names, as if they were registered in order. -/
def ofTools (tools : List (Tool σ)) (hnodup : (tools.map fun t => t.definition.name).Nodup) :
    Registry σ :=
  ⟨tools, Placed.entries tools 0, Placed.nil.append hnodup⟩

theorem lt_of_get? (r : Registry σ) {name : String} {place : Nat}
    (h : Keyed.get? name r.index = some place) : place < r.tools.length := by
  obtain ⟨t, hplace, -⟩ := (r.placed name place).mp h
  exact (List.getElem?_eq_some_iff.mp hplace).1

def find? (r : Registry σ) (name : String) : Option (Tool σ) :=
  match h : Keyed.get? name r.index with
  | some place => some (r.tools.get ⟨place, r.lt_of_get? h⟩)
  | none => none

theorem find?_eq_some_iff {r : Registry σ} {name : String} {t : Tool σ} :
    r.find? name = some t ↔ t ∈ r.tools ∧ t.definition.name = name := by
  unfold find?
  split
  · next place hplace =>
    obtain ⟨u, hu, hname⟩ := (r.placed name place).mp hplace
    obtain ⟨hlt, rfl⟩ := List.getElem?_eq_some_iff.mp hu
    simp only [List.get_eq_getElem, Option.some.injEq]
    constructor
    · rintro rfl
      exact ⟨List.getElem_mem hlt, hname⟩
    · rintro ⟨hmem, rfl⟩
      obtain ⟨other, hother, hsame⟩ := r.placed.get?_of_mem hmem
      obtain rfl := Option.some.inj (hplace.symm.trans hsame)
      rw [List.getElem?_eq_getElem hlt] at hother
      exact Option.some.inj hother
  · next hnone =>
    simp only [reduceCtorEq, false_iff, not_and]
    exact r.placed.get?_eq_none_iff.mp hnone t

theorem mem_of_find? {r : Registry σ} {name : String} {t : Tool σ} (h : r.find? name = some t) :
    t ∈ r.tools :=
  (find?_eq_some_iff.mp h).1

/-- Puts a tool at the end, and its name into the index. -/
def add (r : Registry σ) (t : Tool σ) (hnew : Keyed.get? t.definition.name r.index = none) :
    Registry σ :=
  ⟨r.tools ++ [t], r.index ++ [(t.definition.name, r.tools.length)], r.placed.concat hnew⟩

/-- Registers a tool in the registry at hand, unless its name is taken. -/
def register (t : Tool σ) : ExceptT DuplicateTool (StateM (Registry σ)) Unit := do
  let r ← getThe (Registry σ)
  if hnew : Keyed.get? t.definition.name r.index = none then set (r.add t hnew)
  else throw ⟨t.definition.name⟩

theorem register_run (t : Tool σ) (r : Registry σ) :
    (register t).run.run r =
      if hnew : Keyed.get? t.definition.name r.index = none then (.ok (), r.add t hnew)
      else (.error ⟨t.definition.name⟩, r) := by
  change (if hnew : Keyed.get? t.definition.name r.index = none then set (r.add t hnew)
    else throw ⟨t.definition.name⟩ : ExceptT DuplicateTool (StateM (Registry σ)) Unit).run.run r = _
  split <;> rfl

def registerAll (r : Registry σ) : List (Tool σ) → Except DuplicateTool (Registry σ)
  | [] => .ok r
  | t :: rest =>
    match (register t).run.run r with
    | (.ok (), r) => r.registerAll rest
    | (.error e, _) => .error e

def definitions (r : Registry σ) : List ToolDefinition :=
  r.tools.map Tool.definition

def size (r : Registry σ) : Nat :=
  r.tools.length

def isEmpty (r : Registry σ) : Bool :=
  r.tools.isEmpty

end Registry

end MarketQuery
