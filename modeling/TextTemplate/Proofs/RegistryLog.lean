import TextTemplate.Partial.Registry
import TextTemplate.Proofs.Entries

/-!
# The log of a registry

Texts are registered and looked up, in any order. A `Registry.Use` is one of these, where a lookup
comes with the registry as it is at the time, and a list of them leads from one registry to another
(`Registry.Leads`). What a lookup can do is said once, by `Registry.Lookup`; what any number of uses
does to one name follows from it by induction: a text stays (`Leads.holds`), and what is missing
stays missing for as long as the name is not used (`Leads.misses`).

The entries of a registry are in order, so that its size is the number of its names
(`Leads.size`).
-/

namespace TextTemplate

namespace Registry

theorem get?_register {name other text : String} {r : Registry} :
    Keyed.get? other (r.register name text).templates =
      if name = other then some text else Keyed.get? other r.templates := Keyed.get?_insert ..

/-! ## One lookup -/

/-- The registry after a question. -/
def asked (r : Registry) : Registry := { r with calls := r.calls + 1 }

/-- What a lookup can come to, and the registry that it leaves. -/
inductive Lookup (name : String) (r : Registry) :
    Except (List String) (Option String) → Registry → Prop where
  /-- A text that is held is given. -/
  | held {text : String} : Keyed.get? name r.templates = some text →
      Lookup name r (.ok (some text)) r
  /-- There is no resolver. -/
  | unresolved : Keyed.get? name r.templates = none → r.resolver = none →
      Lookup name r (.ok none) r
  /-- The resolver fails. -/
  | failed {ask : Resolver} {causes : List String} : Keyed.get? name r.templates = none →
      r.resolver = some ask → ask r.calls name = .error causes →
      Lookup name r (.error causes) r.asked
  /-- The resolver has no text, or an empty one. -/
  | absent {ask : Resolver} {answer : Option String} : Keyed.get? name r.templates = none →
      r.resolver = some ask → ask r.calls name = .ok answer → answer = none ∨ answer = some "" →
      Lookup name r (.ok none) r.asked
  /-- The resolver has a text, which is held from then on. -/
  | answered {ask : Resolver} {text : String} : Keyed.get? name r.templates = none →
      r.resolver = some ask → ask r.calls name = .ok (some text) → text ≠ "" →
      Lookup name r (.ok (some text)) (r.asked.register name text)

/-- Each lookup has come about in one of these ways. -/
theorem lookup (name : String) (r : Registry) :
    Lookup name r (r.resolve name).1 (r.resolve name).2 := by
  unfold resolve
  split
  · next text h => exact .held h
  · next missing =>
    split
    · next h => exact .unresolved missing h
    · next ask h =>
      simp only
      split
      · next causes answer => exact .failed missing h answer
      · next answer => exact .absent missing h answer (.inl rfl)
      · next text answer =>
        -- An empty text is treated as no text.
        split
        · next isEmpty =>
          have same : text = "" := String.isEmpty_iff.1 isEmpty
          exact .absent missing h answer (.inr (congrArg some same))
        · next nonempty =>
          have differs : text ≠ "" := fun same => nonempty (String.isEmpty_iff.2 same)
          exact .answered missing h answer differs

namespace Lookup

variable {name other text : String} {r after : Registry}
  {result : Except (List String) (Option String)}

theorem resolver_eq (h : Lookup name r result after) : after.resolver = r.resolver := by
  cases h <;> rfl

/-- A lookup leaves the other names as they are. -/
theorem get?_of_ne (h : Lookup name r result after) (differs : name ≠ other) :
    Keyed.get? other after.templates = Keyed.get? other r.templates := by
  cases h with
  | answered _ _ _ _ => rw [get?_register, if_neg differs, asked]
  | _ => rfl

/-- After a lookup a name is held if the lookup has given its text. -/
theorem get?_iff (h : Lookup name r result after) :
    Keyed.get? name after.templates = some text ↔ result = .ok (some text) := by
  cases h with
  | held held => simp [held]
  | unresolved missing _ => simp [missing]
  | failed missing _ _ => simp [asked, missing]
  | absent missing _ _ _ => simp [asked, missing]
  | answered _ _ _ _ => simp [get?_register]

/-- A lookup calls the resolver exactly if there is one and the name is not held. -/
theorem calls_eq (h : Lookup name r result after) :
    after.calls = r.calls + if r.resolver.isSome && !r.contains name then 1 else 0 := by
  rw [contains]
  cases h with
  | held held => simp [held]
  | unresolved missing unasked => simp [unasked]
  | failed missing ask _ => simp [asked, missing, ask]
  | absent missing ask _ _ => simp [asked, missing, ask]
  | answered missing ask _ _ => simp [asked, register, missing, ask]

theorem sorted (h : Lookup name r result after) (sorted : Keyed.Sorted r.templates) :
    Keyed.Sorted after.templates := by
  cases h with
  | answered _ _ _ _ => exact sorted.insert _ _
  | _ => exact sorted

/-- A lookup without a text stores nothing. -/
theorem templates_eq (h : Lookup name r result after)
    (textless : ∀ text, result ≠ .ok (some text)) : after.templates = r.templates := by
  cases h with
  | answered _ _ _ _ => exact absurd rfl (textless _)
  | _ => rfl

end Lookup

/-- A name that is held is found without a change to the registry. -/
theorem resolve_of_get? {name text : String} {r : Registry}
    (held : Keyed.get? name r.templates = some text) : r.resolve name = (.ok (some text), r) := by
  simp only [resolve, held]

/-! ## Uses -/

/-- A use of a registry. -/
inductive Use where
  | registered (name text : String)
  /-- A name is looked up, the registry being as it is. -/
  | lookedUp (name : String) (before : Registry)

namespace Use

def name : Use → String
  | registered name _ => name
  | lookedUp name _ => name

/-- The text that is registered, or that the lookup gives. -/
def text? : Use → Option String
  | registered _ text => some text
  | lookedUp name before =>
    match (before.resolve name).1 with
    | .ok found => found
    | .error _ => none

/-- The resolver is asked. -/
def asks : Use → Bool
  | registered .. => false
  | lookedUp name before => before.resolver.isSome && !before.contains name

/-- What a use makes of a registry. -/
def after (r : Registry) : Use → Registry
  | registered name text => r.register name text
  | lookedUp name _ => (r.resolve name).2

/-- The text of a lookup is what the registry of that time gave. -/
theorem text?_lookedUp {n text : String} {before : Registry} :
    (lookedUp n before).text? = some text ↔ (before.resolve n).1 = .ok (some text) := by
  rw [text?]
  cases (before.resolve n).1 with
  | error causes => simp
  | ok found => simp

end Use

/-- What uses make of a registry, one after the other. -/
def replay (r : Registry) (uses : List Use) : Registry := uses.foldl Use.after r

/-- The names that have been registered, or for which a text has been found. -/
def supplied (uses : List Use) : Finset String :=
  (uses.filter (·.text?.isSome)).map Use.name |>.toFinset

/-- A name is supplied by a use of it that has a text. -/
theorem mem_supplied {name : String} {uses : List Use} :
    name ∈ supplied uses ↔ ∃ use ∈ uses, use.name = name ∧ use.text?.isSome = true := by
  simp only [supplied, List.mem_toFinset, List.mem_map, List.mem_filter]
  constructor
  · rintro ⟨use, ⟨mem, gives⟩, same⟩
    exact ⟨use, mem, same, gives⟩
  · rintro ⟨use, mem, same, gives⟩
    exact ⟨use, ⟨mem, gives⟩, same⟩

theorem mem_supplied_cons {name : String} {use : Use} {uses : List Use} :
    name ∈ supplied (use :: uses) ↔
      (use.name = name ∧ use.text?.isSome = true) ∨ name ∈ supplied uses := by
  simp only [mem_supplied, List.exists_mem_cons_iff]

/-- A lookup adds its name if it gives a text, and nothing else. -/
theorem contains_resolve_iff {name other : String} {r : Registry} :
    (r.resolve name).2.contains other = true ↔
      r.contains other = true ∨
        (Use.lookedUp name r).name = other ∧ (Use.lookedUp name r).text?.isSome = true := by
  -- A lookup can bring in its own name only, and it does if it has a text for it.
  by_cases same : name = other
  · subst same
    constructor
    · intro held
      obtain ⟨text, held⟩ := Option.isSome_iff_exists.1 held
      have gives : (Use.lookedUp name r).text? = some text :=
        Use.text?_lookedUp.2 ((lookup name r).get?_iff.1 held)
      exact .inr ⟨rfl, by rw [gives]; rfl⟩
    · rintro (held | ⟨_, gives⟩)
      · exact contains_resolve held
      · obtain ⟨text, gives⟩ := Option.isSome_iff_exists.1 gives
        have held := (lookup name r).get?_iff.2 (Use.text?_lookedUp.1 gives)
        rw [contains, held]
        rfl
  · have kept : (r.resolve name).2.contains other = r.contains other := by
      rw [contains, (lookup name r).get?_of_ne same, contains]
    rw [kept, Use.name]
    exact (or_iff_left fun both => same both.1).symm

/-- The text of a name that has been registered last. -/
def latest? (name : String) : List Use → Option String
  | [] => none
  | .registered n text :: later => (latest? name later).or (if n = name then some text else none)
  | .lookedUp .. :: later => latest? name later

/-- Uses that lead from one registry to another. Each lookup finds the registry as the uses before
it have left it. -/
inductive Leads : Registry → List Use → Registry → Prop where
  | nil (r : Registry) : Leads r [] r
  | register {r last : Registry} {name text : String} {uses : List Use} :
      Leads (r.register name text) uses last → Leads r (.registered name text :: uses) last
  | lookUp {r last : Registry} {name : String} {uses : List Use} :
      Leads (r.resolve name).2 uses last → Leads r (.lookedUp name r :: uses) last

namespace Leads

variable {r middle last : Registry} {uses more : List Use} {name text : String}

/-- Where uses lead is determined by the uses. -/
theorem eq_replay (h : Leads r uses last) : last = replay r uses := by
  induction h with
  | nil r => rfl
  | register _ ih => exact ih
  | lookUp _ ih => exact ih

theorem append (h : Leads r uses middle) (h' : Leads middle more last) :
    Leads r (uses ++ more) last := by
  induction h with
  | nil r => exact h'
  | register _ ih => exact .register (ih h')
  | lookUp _ ih => exact .lookUp (ih h')

/-- The uses before a point and those behind it lead to the same registry and from it. -/
theorem split (h : Leads r (uses ++ more) last) :
    ∃ middle, Leads r uses middle ∧ Leads middle more last := by
  induction uses generalizing r with
  | nil => exact ⟨r, .nil r, h⟩
  | cons use uses ih =>
    cases h with
    | register h =>
      obtain ⟨middle, before, behind⟩ := ih h
      exact ⟨middle, .register before, behind⟩
    | lookUp h =>
      obtain ⟨middle, before, behind⟩ := ih h
      exact ⟨middle, .lookUp before, behind⟩

/-- The registry that a lookup finds. -/
theorem before_lookUp {before : Registry}
    (h : Leads r (uses ++ .lookedUp name before :: more) last) :
    Leads r uses before ∧ Leads (before.resolve name).2 more last := by
  obtain ⟨middle, first, behind⟩ := h.split
  cases behind with
  | lookUp behind => exact ⟨first, behind⟩

/-! ### One name -/

theorem resolver (h : Leads r uses last) : last.resolver = r.resolver := by
  induction h with
  | nil r => rfl
  | register _ ih => exact ih
  | lookUp _ ih => exact ih.trans (Registry.lookup _ _).resolver_eq

/-- A text that is held is held until another is registered. -/
theorem holds (h : Leads r uses last) (held : Keyed.get? name r.templates = some text)
    (kept : ∀ other, .registered name other ∉ uses) :
    Keyed.get? name last.templates = some text := by
  induction h with
  | nil r => exact held
  | @register r last n t uses _ ih =>
    -- What is registered has another name, or the text would not be kept.
    have differs : n ≠ name := by
      rintro rfl
      exact kept t List.mem_cons_self
    apply ih
    · rw [get?_register, if_neg differs]
      exact held
    · exact fun other mem => kept other (List.mem_cons_of_mem _ mem)
  | lookUp _ ih =>
    apply ih (get?_resolve held _)
    exact fun other mem => kept other (List.mem_cons_of_mem _ mem)

/-- A name that is missing is missing until it is used. -/
theorem misses (h : Leads r uses last) (missing : Keyed.get? name r.templates = none)
    (unused : ∀ use ∈ uses, use.name ≠ name) : Keyed.get? name last.templates = none := by
  -- By induction on the uses, none of which puts the name in.
  induction h with
  | nil r => exact missing
  | @register r last n t uses _ ih =>
    have differs : n ≠ name := unused _ List.mem_cons_self
    apply ih
    · rw [get?_register, if_neg differs]
      exact missing
    · exact fun use mem => unused use (List.mem_cons_of_mem _ mem)
  | @lookUp r last n uses _ ih =>
    have differs : n ≠ name := unused _ List.mem_cons_self
    apply ih
    · rw [(lookup n r).get?_of_ne differs]
      exact missing
    · exact fun use mem => unused use (List.mem_cons_of_mem _ mem)

/-- A use that gives a text leaves it behind. -/
theorem holds_text {use : Use} (h : Leads r (use :: uses) last) (gives : use.text? = some text) :
    Keyed.get? use.name (use.after r).templates = some text ∧ Leads (use.after r) uses last := by
  cases h with
  | @register _ _ n t _ h =>
    cases gives
    refine ⟨?_, h⟩
    rw [Use.after, Use.name, get?_register, if_pos rfl]
  | lookUp h => exact ⟨(Registry.lookup _ _).get?_iff.2 (Use.text?_lookedUp.1 gives), h⟩

/-! ### All names -/

/-- The resolver is asked in the lookups that ask it, and nowhere else. -/
theorem calls (h : Leads r uses last) : last.calls = r.calls + uses.countP Use.asks := by
  induction h with
  | nil r => rfl
  | register _ ih =>
    rw [ih, List.countP_cons_of_neg (by simp [Use.asks])]
    rfl
  | @lookUp r last n uses _ ih =>
    have asks : (r.resolve n).2.calls =
        r.calls + if (Use.lookedUp n r).asks = true then 1 else 0 := (lookup n r).calls_eq
    rw [ih, List.countP_cons, asks]
    omega

/-- The templates stay sorted along any uses. -/
theorem sorted (h : Leads r uses last) (sorted : Keyed.Sorted r.templates) :
    Keyed.Sorted last.templates := by
  induction h with
  | nil r => exact sorted
  | register _ ih => exact ih (sorted.insert _ _)
  | lookUp _ ih => exact ih ((Registry.lookup _ _).sorted sorted)

/-- What is held has been held before, or it has been registered or found. -/
theorem contains_iff (h : Leads r uses last) : last.contains name = true ↔
    r.contains name = true ∨ name ∈ supplied uses := by
  induction h with
  | nil r => simp [supplied]
  | @register r last n t uses _ ih =>
    have registered : (r.register n t).contains name = true ↔
        n = name ∨ r.contains name = true := by
      rw [contains_register, Bool.or_eq_true, decide_eq_true_iff]
    rw [ih, registered, mem_supplied_cons]
    simp only [Use.name, Use.text?, Option.isSome_some, and_true, or_assoc, or_left_comm]
  | @lookUp r last n uses _ ih => rw [ih, contains_resolve_iff, mem_supplied_cons, or_assoc]

/-- From a registry without texts, the size is the number of the names that have been registered or
found. -/
theorem size {resolver : Option Resolver} (h : Leads (.empty resolver) uses last) :
    last.size = (supplied uses).card := by
  have sorted : Keyed.Sorted last.templates := h.sorted List.Pairwise.nil
  have names : (Keyed.names last.templates).toFinset = supplied uses := by
    ext name
    rw [List.mem_toFinset, Keyed.mem_names]
    exact h.contains_iff.trans (or_iff_right Bool.false_ne_true)
  rw [← names, sorted.card_names]
  rfl

end Leads

end Registry

end TextTemplate
