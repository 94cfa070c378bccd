import TextTemplate.Proofs.Lowering

/-!
# Where output comes from

A rendered template is a list of fragments, and each of them is written by a leaf: a text writes
itself, an interpolation writes the displayed text of a value (`Node.Writes`). `Prints` relates the
fragments of a rendering to the output that they make up, and to the leaves that may have written
them.
-/

namespace TextTemplate

mutual

/-- The texts and the interpolations of a node, in order, at any place in it. -/
def Node.leaves : Node → List Node
  | .text s => [.text s]
  | .interpolation value escaped => [.interpolation value escaped]
  | .ifThen _ body => leavesAll body
  | .ifThenElse _ body otherwise => leavesAll body ++ leavesAll otherwise
  | .each _ _ _ body => leavesAll body
  | .inclusion _ _ => []

/-- The texts and the interpolations of nodes. -/
def Node.leavesAll : List Node → List Node
  | [] => []
  | n :: rest => leaves n ++ leavesAll rest

end

/-- What a leaf may write. An interpolation has a value first, in whatever environment; the value
goes through the escaping helper if it has not come from there. -/
inductive Node.Writes (helpers : HelperTable) : Node → Fragment → Prop
  | text (s : String) : Writes helpers (.text s) (.literal s)
  | plain {env : Env} {value : Accessor} {escaped : Bool} {v : Value}
    (kept : needsEscape value escaped = false)
    (required : value.requiredValue helpers env = .ok v) :
    Writes helpers (.interpolation value escaped) (.data v.display)
  | escaped {value : Accessor} {v w : Value}
    (escapes : helpers.call Helper.escapeName [v] = .ok w) :
    Writes helpers (.interpolation value true) (.data w.display)

/-- Fragments make up an output, and each is written by one of some leaves. -/
structure Prints (helpers : HelperTable) (writers : Node → Prop) (fragments : List Fragment)
    (out : String) : Prop where
  joins : Fragment.join fragments = out
  written : ∀ f ∈ fragments, ∃ leaf, writers leaf ∧ leaf.Writes helpers f

namespace Fragment

@[simp] theorem join_single (f : Fragment) : join [f] = f.text := by
  simp [join]

@[simp] theorem join_append (before after : List Fragment) :
    join (before ++ after) = join before ++ join after := by
  simp only [join, List.map_append, String.join_append]

end Fragment

namespace Prints

variable {helpers : HelperTable} {writers : Node → Prop}

theorem nil : Prints helpers writers [] "" := ⟨rfl, nofun⟩

theorem single {leaf : Node} {f : Fragment} (among : writers leaf)
    (writes : leaf.Writes helpers f) : Prints helpers writers [f] f.text := by
  constructor
  · exact Fragment.join_single f
  · intro g held
    rw [List.mem_singleton] at held
    exact ⟨leaf, among, held ▸ writes⟩

/-- Printed fragments one after the other print the texts one after the other. -/
theorem append {before after : List Fragment} {out more : String}
    (h : Prints helpers writers before out) (h' : Prints helpers writers after more) :
    Prints helpers writers (before ++ after) (out ++ more) := by
  constructor
  · rw [Fragment.join_append, h.joins, h'.joins]
  · intro f held
    rcases List.mem_append.1 held with held | held
    · exact h.written f held
    · exact h'.written f held

end Prints

end TextTemplate
