import MarketQuery.Proofs.Repeated
import MarketQuery.Query.Arguments

/-!
A registry after any calls to register tools. A call fails exactly if its name was registered before,
and then it changes nothing; otherwise its tool is put behind the others. So the tools are those of
the first call for each name, and looking a name up gives the tool of its first call. One call
preserves this, and so does a whole sequence.
-/
namespace MarketQuery

variable {σ : Type}

def Tool.name (t : Tool σ) : String := t.definition.name

namespace Registry

/-- Calls in order. Each goes on with the registry that the call before left, also if that failed. -/
def registerEach (r : Registry σ) : List (Tool σ) → List (Except DuplicateTool Unit) × Registry σ
  | [] => ([], r)
  | t :: rest =>
    let call := (register t).run.run r
    let later := call.2.registerEach rest
    (call.1 :: later.1, later.2)

/-- One of these calls registered a tool of this name. -/
def Succeeded (calls : List (Tool σ)) (outcomes : List (Except DuplicateTool Unit))
    (name : String) : Prop :=
  ∃ u, (u, .ok ()) ∈ calls.zip outcomes ∧ u.name = name

/-- What a registry holds after these calls. -/
structure Holds (calls : List (Tool σ)) (r : Registry σ) : Prop where
  /-- The first definition given for each name, in the order of these calls. -/
  definitions : r.definitions = (Repeated.firsts Tool.name calls).map Tool.definition
  distinct : (r.definitions.map ToolDefinition.name).Nodup
  size : r.size = r.definitions.length
  /-- A name leads to the tool of the first call for it. -/
  lookup_ok : ∀ name t, r.lookup name = .ok t ↔
    ∃ before after, calls = before ++ t :: after ∧ t.name = name ∧ ∀ u ∈ before, u.name ≠ name
  lookup_error : ∀ name, r.lookup name = .error (.unknownTool name) ↔ ∀ u ∈ calls, u.name ≠ name

/-- What is kept track of through the calls. -/
structure Tracks (calls : List (Tool σ)) (outcomes : List (Except DuplicateTool Unit))
    (r : Registry σ) : Prop where
  length : outcomes.length = calls.length
  tools : r.tools = Repeated.firsts Tool.name calls
  succeeded : ∀ name, Succeeded calls outcomes name ↔ ∃ u ∈ r.tools, u.name = name

variable {r : Registry σ} {t : Tool σ} {calls : List (Tool σ)}
  {outcomes : List (Except DuplicateTool Unit)}

theorem register_known (h : ∃ u ∈ r.tools, u.name = t.name) :
    (register t).run.run r = (.error ⟨t.name⟩, r) := by
  have hknown : Keyed.get? t.name r.index ≠ none := by
    rw [ne_eq, r.placed.get?_eq_none_iff]
    exact fun hnew => h.elim fun u hu => hnew u hu.1 hu.2
  rw [register_run]
  exact dif_neg hknown

theorem register_new (h : ∀ u ∈ r.tools, u.name ≠ t.name) :
    ∃ next, (register t).run.run r = (.ok (), next) ∧ next.tools = r.tools ++ [t] := by
  have hnew : Keyed.get? t.name r.index = none := r.placed.get?_eq_none_iff.mpr h
  refine ⟨r.add t hnew, ?_, rfl⟩
  rw [register_run]
  exact dif_pos hnew

theorem succeeded_concat {outcome : Except DuplicateTool Unit} {name : String}
    (hlength : outcomes.length = calls.length) :
    Succeeded (calls ++ [t]) (outcomes ++ [outcome]) name ↔
      Succeeded calls outcomes name ∨ (outcome = .ok () ∧ t.name = name) := by
  unfold Succeeded
  rw [List.zip_append hlength.symm]
  constructor
  · rintro ⟨u, hu, hname⟩
    rcases List.mem_append.mp hu with hu | hu
    · exact .inl ⟨u, hu, hname⟩
    · obtain ⟨rfl, rfl⟩ := Prod.mk.inj (List.mem_singleton.mp hu)
      exact .inr ⟨rfl, hname⟩
  · rintro (⟨u, hu, hname⟩ | ⟨rfl, hname⟩)
    · exact ⟨u, List.mem_append_left _ hu, hname⟩
    · exact ⟨t, List.mem_append_right _ List.mem_cons_self, hname⟩

/-- A name that is known among the tools is known among the calls. -/
theorem Tracks.known_iff (h : Tracks calls outcomes r) (name : String) :
    (∃ u ∈ r.tools, u.name = name) ↔ ∃ u ∈ calls, u.name = name := by
  rw [h.tools]
  constructor
  · rintro ⟨u, hu, hname⟩
    exact ⟨u, Repeated.mem_of_mem_firsts hu, hname⟩
  · rintro ⟨u, hu, rfl⟩
    exact Repeated.exists_mem_firsts hu

theorem Tracks.register (h : Tracks calls outcomes r) (t : Tool σ) :
    Tracks (calls ++ [t]) (outcomes ++ [((register t).run.run r).1])
      ((register t).run.run r).2 := by
  have hlength : (outcomes ++ [((Registry.register t).run.run r).1]).length =
      (calls ++ [t]).length := by simp [h.length]
  by_cases hknown : ∃ u ∈ r.tools, u.name = t.name
  · rw [register_known hknown] at hlength ⊢
    refine ⟨hlength, ?_, ?_⟩
    · rw [Repeated.firsts_concat_of_known ((h.known_iff t.name).mp hknown), h.tools]
    · intro name
      simp [succeeded_concat h.length, h.succeeded]
  · have hnew : ∀ u ∈ r.tools, u.name ≠ t.name := fun u hu heq => hknown ⟨u, hu, heq⟩
    obtain ⟨next, hrun, htools⟩ := register_new hnew
    rw [hrun] at hlength ⊢
    refine ⟨hlength, ?_, ?_⟩
    · have hfirst : ∀ u ∈ calls, u.name ≠ t.name :=
        fun u hu heq => hknown ((h.known_iff t.name).mpr ⟨u, hu, heq⟩)
      rw [Repeated.firsts_concat_of_new hfirst, htools, h.tools]
    · intro name
      rw [succeeded_concat h.length, h.succeeded, htools]
      simp [or_and_right, exists_or]

theorem Tracks.registerEach (h : Tracks calls outcomes r) (more : List (Tool σ)) :
    Tracks (calls ++ more) (outcomes ++ (r.registerEach more).1) (r.registerEach more).2 := by
  induction more generalizing calls outcomes r with
  | nil => simpa [Registry.registerEach] using h
  | cons t rest ih =>
    have hrest := ih (h.register t)
    rw [List.append_assoc, List.append_assoc] at hrest
    exact hrest

theorem tracks_empty : Tracks [] [] (empty : Registry σ) where
  length := rfl
  tools := rfl
  succeeded := by simp [Succeeded, empty]

theorem Tracks.holds (h : Tracks calls outcomes r) : Holds calls r where
  definitions := by rw [Registry.definitions, h.tools]
  distinct := by
    rw [Registry.definitions, h.tools, List.map_map]
    exact Repeated.nodup_firsts calls
  size := by simp [Registry.size, Registry.definitions]
  lookup_ok := by
    intro name t
    have hfind : r.lookup name = .ok t ↔ r.find? name = some t := by
      cases hfound : r.find? name <;> simp [lookup, hfound]
    rw [hfind, find?_eq_some_iff, h.tools, Repeated.mem_firsts_iff]
    constructor
    · rintro ⟨⟨before, after, heq, hbefore⟩, rfl⟩
      exact ⟨before, after, heq, rfl, hbefore⟩
    · rintro ⟨before, after, heq, rfl, hbefore⟩
      exact ⟨⟨before, after, heq, hbefore⟩, rfl⟩
  lookup_error := by
    intro name
    have hfind : r.lookup name = .error (.unknownTool name) ↔ r.find? name = none := by
      cases hfound : r.find? name <;> simp [lookup, hfound]
    have hsome : (∃ t, r.find? name = some t) ↔ ∃ u ∈ calls, u.name = name := by
      simp only [find?_eq_some_iff]
      exact h.known_iff name
    rw [hfind, Option.eq_none_iff_forall_ne_some, ← not_exists, hsome]
    simp

/-- A call fails exactly if an earlier call succeeded for the same name. It then leaves the registry
as it was. After all calls, and after any of them, the registry holds the first definition given for
each name, and finds each under its name. -/
theorem registrations (calls : List (Tool σ)) (t : Tool σ) :
    let past := (empty : Registry σ).registerEach calls
    let call := (register t).run.run past.2
    past.1.length = calls.length ∧
      (call.1 = .error ⟨t.name⟩ ↔ Succeeded calls past.1 t.name) ∧
      (call.1 = .ok () ↔ ¬ Succeeded calls past.1 t.name) ∧
      (call.1 ≠ .ok () → call.2 = past.2) ∧ Holds calls past.2 := by
  intro past call
  have htracks : Tracks calls past.1 past.2 := tracks_empty.registerEach calls
  refine ⟨htracks.length, ?_⟩
  rw [htracks.succeeded]
  by_cases hknown : ∃ u ∈ past.2.tools, u.name = t.name
  · have hcall : call = (.error ⟨t.name⟩, past.2) := register_known hknown
    simp [hcall, hknown, htracks.holds]
  · obtain ⟨next, hrun, -⟩ := register_new fun u hu heq => hknown ⟨u, hu, heq⟩
    have hcall : call = (.ok (), next) := hrun
    simp [hcall, hknown, htracks.holds]

end Registry

end MarketQuery
