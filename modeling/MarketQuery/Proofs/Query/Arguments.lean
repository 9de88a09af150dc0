import MarketQuery.Proofs.Outcome
import MarketQuery.Query.Arguments

/-!
The arguments of a call against the parameters that a tool declares. Where no two parameters have
one name, each name has the argument of its parameter, and an argument is of the declared kind. So
a parameter that must be given, or has a default, can be read as what it was declared to be.
-/
namespace MarketQuery

def Argument.kind : Argument → ParameterKind
  | string _ => .string
  | number _ => .number
  | integer _ => .integer
  | boolean _ => .boolean
  | stringList _ => .stringList

theorem ParameterKind.kind_of_coerce {kind : ParameterKind} {v : Json} {a : Argument}
    (h : kind.coerce v = .ok a) : a.kind = kind := by
  unfold coerce at h
  split at h
  case h_1 | h_2 | h_3 | h_7 | h_10 =>
    obtain rfl := Except.ok.inj h
    rfl
  case h_4 | h_5 | h_6 | h_8 =>
    split at h
    · obtain rfl := Except.ok.inj h
      rfl
    · simp at h
  case h_9 =>
    obtain ⟨items, -, rfl⟩ := Outcome.map_eq_ok_iff.mp h
    rfl
  case h_11 => simp at h

/-- Every call has an argument for the parameter: it has to be given or has a default. -/
def Parameter.isAssured (p : Parameter) : Bool :=
  p.required || p.default.isSome

def Parameter.declared (parameters : List Parameter) (name : String) (kind : ParameterKind) :
    Bool :=
  parameters.any fun p => p.name = name && p.kind = kind && p.isAssured

namespace Arguments

theorem get?_cons (name other : String) (a : Argument) (rest : Arguments) :
    get? ((other, a) :: rest) name = if name = other then some a else get? rest name :=
  Keyed.get?_cons name other a rest

def Holds (args : Arguments) (name : String) (kind : ParameterKind) : Prop :=
  ∃ a, args.get? name = some a ∧ a.kind = kind

def Fit (args : Arguments) (parameters : List Parameter) : Prop :=
  ∀ p ∈ parameters, p.isAssured = true → args.Holds p.name p.kind

theorem Fit.holds {args : Arguments} {parameters : List Parameter} (h : args.Fit parameters)
    {name : String} {kind : ParameterKind}
    (hdeclared : Parameter.declared parameters name kind = true) : args.Holds name kind := by
  obtain ⟨p, hp, hmatch⟩ := List.any_eq_true.mp hdeclared
  simp only [Bool.and_eq_true, decide_eq_true_eq] at hmatch
  obtain ⟨⟨rfl, rfl⟩, hassured⟩ := hmatch
  exact h p hp hassured

theorem Holds.string {args : Arguments} {name : String} (h : args.Holds name .string) :
    ∃ s, args.string name = .ok s := by
  obtain ⟨a, ha, hkind⟩ := h
  cases a with
  | string s => exact ⟨s, by rw [Arguments.string, ha]⟩
  | number | integer | boolean | stringList => cases hkind

theorem Holds.number {args : Arguments} {name : String} (h : args.Holds name .number) :
    ∃ x, args.number name = .ok x := by
  obtain ⟨a, ha, hkind⟩ := h
  cases a with
  | number x => exact ⟨x, by rw [Arguments.number, ha]⟩
  | string | integer | boolean | stringList => cases hkind

theorem Holds.integer {args : Arguments} {name : String} (h : args.Holds name .integer) :
    ∃ i, args.integer name = .ok i := by
  obtain ⟨a, ha, hkind⟩ := h
  cases a with
  | integer i => exact ⟨i, by rw [Arguments.integer, ha]⟩
  | string | number | boolean | stringList => cases hkind

theorem Holds.boolean {args : Arguments} {name : String} (h : args.Holds name .boolean) :
    ∃ b, args.boolean name = .ok b := by
  obtain ⟨a, ha, hkind⟩ := h
  cases a with
  | boolean b => exact ⟨b, by rw [Arguments.boolean, ha]⟩
  | string | number | integer | stringList => cases hkind

theorem Holds.stringList {args : Arguments} {name : String} (h : args.Holds name .stringList) :
    ∃ items, args.stringList name = .ok items := by
  obtain ⟨a, ha, hkind⟩ := h
  cases a with
  | stringList items => exact ⟨items, by rw [Arguments.stringList, ha]⟩
  | string | number | integer | boolean => cases hkind

end Arguments

namespace ToolDefinition

variable {d : ToolDefinition} {t : SymbolTable} {input : Fields} {parameters : List Parameter}
  {args : Arguments}

theorem get?_eq_none_of_argumentsOf (h : d.argumentsOf t input parameters = .ok args)
    {name : String} (hname : ∀ p ∈ parameters, p.name ≠ name) : args.get? name = none := by
  induction parameters generalizing args with
  | nil =>
    obtain rfl := Except.ok.inj h
    rfl
  | cons first rest ih =>
    have hrest : ∀ p ∈ rest, p.name ≠ name := fun p hp => hname p (List.mem_cons_of_mem _ hp)
    simp only [argumentsOf] at h
    split at h
    · simp at h
    · exact ih h hrest
    · obtain ⟨more, hmore, rfl⟩ := Outcome.map_eq_ok_iff.mp h
      have hfirst : name ≠ first.name := Ne.symm (hname first List.mem_cons_self)
      rw [Arguments.get?_cons, if_neg hfirst]
      exact ih hmore hrest

/-- Each parameter has its argument under its name, or none. -/
theorem argument?_eq_get? (h : d.argumentsOf t input parameters = .ok args)
    (hnames : (parameters.map Parameter.name).Nodup) {p : Parameter} (hp : p ∈ parameters) :
    d.argument? t input p = .ok (args.get? p.name) := by
  induction parameters generalizing args with
  | nil => simp at hp
  | cons first rest ih =>
    obtain ⟨hnew, hnames⟩ := List.nodup_cons.mp hnames
    have hother : ∀ q ∈ rest, q.name ≠ first.name :=
      fun q hq heq => hnew (heq ▸ List.mem_map_of_mem hq)
    simp only [argumentsOf] at h
    split at h
    · simp at h
    · next hfirst =>
      rcases List.mem_cons.mp hp with rfl | hmem
      · rw [hfirst, get?_eq_none_of_argumentsOf h hother]
      · exact ih h hnames hmem
    · next a hfirst =>
      obtain ⟨more, hmore, rfl⟩ := Outcome.map_eq_ok_iff.mp h
      rcases List.mem_cons.mp hp with rfl | hmem
      · rw [hfirst, Arguments.get?_cons, if_pos rfl]
      · rw [ih hmore hnames hmem, Arguments.get?_cons, if_neg (hother p hmem)]

theorem kind_of_argument {p : Parameter} {a : Argument}
    (h : d.argument? t input p = .ok (some a)) : a.kind = p.kind := by
  unfold argument? at h
  split at h
  · simp at h
  · simp at h
  · split at h
    · next hcoerce =>
      obtain rfl := Option.some.inj (Except.ok.inj h)
      exact ParameterKind.kind_of_coerce hcoerce
    · simp at h

theorem argument?_ne_none {p : Parameter} (hassured : p.isAssured = true) :
    d.argument? t input p ≠ .ok none := by
  have hraw : d.rawValue t input p ≠ .ok none := by
    unfold rawValue
    split
    · split
      · intro h
        obtain ⟨v, -, hv⟩ := Outcome.map_eq_ok_iff.mp h
        simp at hv
      · simp
    · split
      · simp
      · next hdefault =>
        have hrequired : p.required = true := by
          simpa [Parameter.isAssured, hdefault] using hassured
        simp [hrequired]
  unfold argument?
  split
  · simp
  · next h => exact absurd h hraw
  · split <;> simp

/-- The arguments of a call fit the parameters. -/
theorem fit_of_arguments (h : d.arguments t input = .ok args)
    (hnames : (d.parameters.map Parameter.name).Nodup) : args.Fit d.parameters := by
  intro p hp hassured
  have hargument := argument?_eq_get? h hnames hp
  cases hget : args.get? p.name with
  | none => exact absurd (hargument.trans (congrArg _ hget)) (argument?_ne_none hassured)
  | some a =>
    rw [hget] at hargument
    exact ⟨a, hget, kind_of_argument hargument⟩

end ToolDefinition

end MarketQuery
