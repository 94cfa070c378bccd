import TextTemplate.Keyed

/-!
# Registries of partials

A registry holds the texts of templates by name. A name that it does not hold is asked of a
resolver, if there is one; a text that the resolver gives is held from then on, unless it is empty.
Whatever a registry holds it never asks for.
-/

namespace TextTemplate

/-- A source of texts. Its answer may depend on the number of questions before: a text, nothing, or
the messages of a failure, from the outermost cause inwards. -/
abbrev Resolver := Nat → String → Except (List String) (Option String)

/-- A resolver whose answer depends on the name alone. -/
def Resolver.ofFunction (f : String → Except (List String) (Option String)) : Resolver :=
  fun _ name => f name

/-- Texts by name, and where others may be found. -/
structure Registry where
  templates : List (String × String)
  resolver : Option Resolver
  /-- The number of questions that the resolver has been asked. -/
  calls : Nat

namespace Registry

/-- A registry without texts. -/
def empty (resolver : Option Resolver) : Registry := ⟨[], resolver, 0⟩

/-- Holds a text, in place of any other of its name. -/
def register (name text : String) (r : Registry) : Registry :=
  { r with templates := Keyed.insert name text r.templates }

def contains (name : String) (r : Registry) : Bool := (Keyed.get? name r.templates).isSome

def size (r : Registry) : Nat := r.templates.length

def isEmpty (r : Registry) : Bool := r.templates.isEmpty

/-- The text of a name. -/
def resolve (name : String) (r : Registry) : Except (List String) (Option String) × Registry :=
  match Keyed.get? name r.templates with
  | some text => (.ok (some text), r)
  | none =>
    match r.resolver with
    | none => (.ok none, r)
    | some resolver =>
      let asked := { r with calls := r.calls + 1 }
      match resolver r.calls name with
      | .error causes => (.error causes, asked)
      | .ok none => (.ok none, asked)
      | .ok (some text) =>
        if text.isEmpty then (.ok none, asked) else (.ok (some text), asked.register name text)

theorem contains_register (name other text : String) (r : Registry) :
    (r.register name text).contains other = (decide (name = other) || r.contains other) := by
  simp only [contains, register, Keyed.get?_insert]
  by_cases h : name = other <;> simp [h]

/-- A name that is held is resolved without a question. -/
theorem resolve_of_contains {name : String} {r : Registry} (held : r.contains name = true) :
    ∃ text, r.resolve name = (.ok (some text), r) := by
  obtain ⟨text, h⟩ := Option.isSome_iff_exists.1 held
  exact ⟨text, by simp [resolve, h]⟩

/-- Nothing that is held is lost by a question. -/
theorem contains_resolve {name other : String} {r : Registry} (held : r.contains other = true) :
    (r.resolve name).2.contains other = true := by
  unfold resolve
  split
  · exact held
  · split
    · exact held
    · dsimp only
      split
      · exact held
      · exact held
      · split
        · exact held
        · rw [contains_register]
          exact Bool.or_eq_true_iff.2 (.inr held)

/-- What is held stays as it is, whatever is asked for. -/
theorem get?_resolve {name text : String} {r : Registry}
    (held : Keyed.get? name r.templates = some text) (other : String) :
    Keyed.get? name (r.resolve other).2.templates = some text := by
  unfold resolve
  split
  · exact held
  · next missing =>
    split
    · exact held
    · dsimp only
      split
      · exact held
      · exact held
      · split
        · exact held
        · have differs : other ≠ name := by
            rintro rfl
            rw [held] at missing
            cases missing
          rw [register, Keyed.get?_insert, if_neg differs]
          exact held

/-- How a registry shows itself. -/
def description (r : Registry) : String :=
  "PartialRegistry \x7b templates: " ++ toString r.size ++ ", resolver: " ++
    toString r.resolver.isSome ++ " \x7d"

end Registry

end TextTemplate
