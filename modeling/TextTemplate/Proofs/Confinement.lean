import Mathlib
import TextTemplate.Calendar.CommonLocales
import TextTemplate.Proofs.Escaping
import TextTemplate.Proofs.Simulation

/-!
# Data add no markup

Where no template that is executed asks for an unescaped value, all markup of an output comes from
the texts of templates (`Artifact.render_confined`). The helper that escapes has to be the standard
one; the other helpers, the context and the registry may be anything.

A value is written after it has gone through the escaping helper: by its last pipe, or once more by
the interpolation itself. Which of the two is decided when the template is lowered, from the name of
the last pipe; the lemmas on pipes show that the value of such a chain is escaped text
(`Accessor.requiredValue_of_escapes_last`).
-/

namespace TextTemplate

/-- No interpolation asks for an unescaped value. -/
def Template.Escapes (t : Template) : Prop :=
  ∀ value, Node.interpolation value false ∉ Node.leavesAll t

/-- The templates of a rendering: the template itself and those that the included texts spell. -/
def Template.Executes (helpers : HelperTable) (maxDepth : Nat) (visible : List String)
    (root : Value) (registry : Option Registry) (t p : Template) : Prop :=
  p = t ∨ Spelled (· ∈ t.includedTexts helpers maxDepth visible root registry) p

/-- If a session has a cache, then none that gives a wrong answer for one of some texts. Caches
start like this and stay so, whatever they are used for (`Faithful`). -/
def Session.Answers (customNames texts : List String) (s : Session) : Prop :=
  ∀ c, s.cache = some c → ∃ requests, Request.CollisionFree requests ∧ c.Faithful requests ∧
    ∀ text ∈ texts, ⟨text, customNames⟩ ∈ requests

/-- A session without a cache compiles every text as it is asked for. -/
theorem Session.answers_uncached (customNames texts : List String) (registry : Option Registry) :
    Session.Answers customNames texts ⟨registry, none⟩ := by
  intro c cached
  cases cached

/-- A session whose cache answers rightly matches a reader without one. -/
theorem Session.Answers.matches {customNames texts : List String} {s : Session}
    (h : s.Answers customNames texts) :
    ∃ requests, Matches requests s ⟨s.registry, []⟩ ∧
      ∀ text ∈ texts, (⟨text, customNames⟩ : Request) ∈ requests := by
  rcases s with ⟨registry, _ | c⟩
  · -- Without a cache any requests will do.
    exact ⟨texts.map fun text => ⟨text, customNames⟩, matches_uncached registry [],
      fun text held => List.mem_map_of_mem held⟩
  · obtain ⟨requests, free, faithful, asked⟩ := h c rfl
    refine ⟨requests, ⟨rfl, fun _ => free, ?_⟩, asked⟩
    intro d same
    cases same
    exact faithful

/-! ## Escaped values -/

section
variable {helpers : HelperTable}
  (standard : helpers.get? Helper.escapeName = some (Helper.ofText Html.escape))
include standard

/-- The helper of the standard name escapes the displayed text of its argument. -/
theorem call_escape (v : Value) :
    helpers.call Helper.escapeName [v] = .ok (.text (Html.escape v.display)) := by
  rw [HelperTable.call, standard]
  rfl

/-- What comes out of pipes that end in the escaping helper is escaped text, if it is anything. -/
theorem Accessor.piped_of_escapes_last {pipes : List String}
    (last : pipes.getLast? = some Helper.escapeName) {v w : Value}
    (result : piped helpers v pipes = .ok w) (present : w.isNull = false) :
    ∃ s, w = .text (Html.escape s) := by
  obtain ⟨init, rfl⟩ := List.getLast?_eq_some_iff.1 last
  unfold piped at result
  split at result
  · -- Null passes by the pipes, and comes out as null.
    split at result
    · cases result
    · cases result
      cases present
  · rw [List.foldlM_append] at result
    obtain ⟨u, _, escaped⟩ := bind_eq_ok.1 result
    simp only [List.foldlM_cons, List.foldlM_nil, call_escape standard] at escaped
    cases escaped
    exact ⟨u.display, rfl⟩

/-- A value whose last pipe escapes is an escaped text, however it began. -/
theorem Accessor.requiredValue_of_escapes_last {env : Env} {a : Accessor}
    (last : a.pipes.getLast? = some Helper.escapeName) {v : Value}
    (required : a.requiredValue helpers env = .ok v) : ∃ s, v = .text (Html.escape s) := by
  obtain ⟨w, result, present⟩ := bind_eq_ok.1 required
  obtain ⟨found, _, result⟩ := bind_eq_ok.1 result
  split at present
  · cases present
  · next notNull =>
    cases present
    exact piped_of_escapes_last standard last result (Bool.eq_false_iff.2 notNull)

/-- What an interpolation writes that does not ask for an unescaped value. -/
theorem Node.Writes.inert {leaf : Node} (escapes : ∀ value, leaf ≠ .interpolation value false)
    {s : String} (writes : leaf.Writes helpers (.data s)) : Html.Inert s.toList := by
  generalize written : Fragment.data s = f at writes
  cases writes with
  | text s' => cases written
  | @plain env value auto v kept required =>
    cases written
    have auto : auto = true := by
      cases auto
      · exact absurd rfl (escapes value)
      · rfl
    subst auto
    -- The interpolation leaves the escaping to the last pipe.
    have last : value.pipes.getLast? = some Helper.escapeName := by simpa [needsEscape] using kept
    obtain ⟨s', rfl⟩ := Accessor.requiredValue_of_escapes_last standard last required
    exact Html.inert_escape s'
  | @escaped value v w call =>
    cases written
    rw [call_escape standard] at call
    cases call
    exact Html.inert_escape v.display

end

/-! ## Fragments -/

namespace Fragment

def literal? : Fragment → Option String
  | literal s => some s
  | data _ => none

/-- The texts of templates among fragments, in order. -/
def literals (fragments : List Fragment) : List String := fragments.filterMap literal?

/-- If the data are inert, then the markup of the output is that of the texts. -/
theorem markup_join {fragments : List Fragment}
    (inert : ∀ s, data s ∈ fragments → Html.Inert s.toList) :
    Html.markup (join fragments) = (literals fragments).flatMap Html.markup := by
  induction fragments with
  | nil => rfl
  | cons f rest ih =>
    have restInert := ih fun s held => inert s (List.mem_cons_of_mem _ held)
    have split : join (f :: rest) = f.text ++ join rest := by
      rw [← join_single f, ← join_append, List.singleton_append]
    rw [split, Html.markup_append, restInert]
    -- A literal stands on both sides, and data adds no markup to the left one.
    cases f with
    | literal s => rfl
    | data s =>
      have unmarked : Html.markup s = [] := (inert s (List.mem_cons_self ..)).markup
      rw [text, unmarked, List.nil_append]
      rfl

end Fragment

/-- Fragments make up an output to which data add no markup. The texts among them are texts of
templates that are executed; the data are inert. -/
structure Confined (executes : Template → Prop) (fragments : List Fragment) (out : String) :
    Prop where
  joins : Fragment.join fragments = out
  literal : ∀ s, .literal s ∈ fragments → ∃ p, executes p ∧ .text s ∈ Node.leavesAll p
  data : ∀ s, .data s ∈ fragments → Html.Inert s.toList
  markup : Html.markup out = (Fragment.literals fragments).flatMap Html.markup

/-- Leaves of templates that ask for no unescaped value write fragments to which data add no
markup. -/
theorem confined_of_prints {helpers : HelperTable}
    (standard : helpers.get? Helper.escapeName = some (Helper.ofText Html.escape))
    {executes : Template → Prop} (escapes : ∀ p, executes p → p.Escapes)
    {fragments : List Fragment} {out : String}
    (prints : Prints helpers (fun leaf => ∃ p, executes p ∧ leaf ∈ Node.leavesAll p) fragments
      out) : Confined executes fragments out := by
  -- Data comes from an interpolation, and those of executed templates escape.
  have data : ∀ s, Fragment.data s ∈ fragments → Html.Inert s.toList := by
    intro s held
    obtain ⟨leaf, ⟨p, executed, among⟩, writes⟩ := prints.written _ held
    apply writes.inert standard
    rintro value rfl
    exact escapes p executed value among
  refine ⟨prints.joins, ?_, data, ?_⟩
  · intro s held
    obtain ⟨leaf, ⟨p, executed, among⟩, writes⟩ := prints.written _ held
    cases writes with
    | text s => exact ⟨p, executed, among⟩
  · rw [← prints.joins]
    exact Fragment.markup_join data

/-- **Data add no markup.** No template of a rendering asks for an unescaped value, and the helper
that escapes is the standard one. Then an output is made up of fragments, in the order of the run:
texts of the templates that are executed, and data, which are inert. So its markup is the markup of
those texts, whatever the context, the other helpers and the registry. If there is a cache, it gives
no wrong answer for the texts that are included. -/
theorem Artifact.render_confined (helpers : HelperTable)
    (standard : helpers.get? Helper.escapeName = some (Helper.ofText Html.escape)) (maxDepth : Nat)
    (visible : List String) (root : Value) (session : Session) (t : Template) {a : Artifact}
    (program : a.program = .ofTemplate visible t)
    (answers : session.Answers helpers.customNames
      (t.includedTexts helpers maxDepth visible root session.registry))
    (escapes : ∀ p, t.Executes helpers maxDepth visible root session.registry p → p.Escapes)
    {out : String} (rendered : ((a.render helpers maxDepth root).run.run session).1 = .ok out) :
    ∃ fragments,
      ((a.program.run helpers maxDepth maxDepth root).run.run session).1 = .ok fragments ∧
        Confined (t.Executes helpers maxDepth visible root session.registry) fragments out := by
  obtain ⟨requests, matched, asked⟩ := answers.matches
  -- All fragments are written by leaves of the templates that are executed.
  have simulates := simulates_template helpers
    (fun leaf => ∃ p, t.Executes helpers maxDepth visible root session.registry p ∧
      leaf ∈ Node.leavesAll p)
    asked (fun p spelled leaf held => ⟨p, .inr spelled, held⟩) maxDepth maxDepth visible
    root t (fun leaf held => ⟨t, .inl rfl, held⟩) session _ matched fun _ included => included
  rw [← program] at simulates
  rw [Artifact.render, run_bind] at rendered
  cases run : (a.program.run helpers maxDepth maxDepth root).run.run session with
  | mk result after =>
    rw [run] at rendered simulates
    cases result with
    | error e => cases rendered
    | ok fragments =>
      cases rendered
      obtain ⟨out, _, prints⟩ := simulates.1.exists_ok
      have joins := prints.joins
      subst joins
      exact ⟨fragments, rfl, confined_of_prints standard escapes prints⟩

/-- A value with markup, escaped by its last pipe and, in an included template, by the
interpolation. -/
theorem Artifact.render_confined_included :
    let t : Template :=
      [.text "<b>", .interpolation ⟨"v", [], ["escapeHtml"]⟩ true, .inclusion (.fixed "p") none]
    let included : Template := [.text "<i>", .interpolation ⟨"v", [], []⟩ true]
    let session : Session := ⟨some ⟨[("p", "<i>\x7b\x7bv\x7d\x7d")], none, 0⟩, none⟩
    let root := Value.map [("v", .text "<a>")]
    let visible := Helper.standardNames
    let helpers := HelperTable.standard .common
    let a := Artifact.ofTemplate visible "" t
    (∀ p, t.Executes helpers 4 visible root session.registry p → p = t ∨ p = included) ∧
      ((a.render helpers 4 root).run.run session).1 = .ok "<b>&lt;a&gt;<i>&lt;a&gt;" ∧
      ∃ fragments, ((a.program.run helpers 4 4 root).run.run session).1 = .ok fragments ∧
        Confined (t.Executes helpers 4 visible root session.registry) fragments
          "<b>&lt;a&gt;<i>&lt;a&gt;" := by
  intro t included session root visible helpers a
  have texts : t.includedTexts helpers 4 visible root session.registry =
      ["<i>\x7b\x7bv\x7d\x7d"] := by cbv
  have spelled : Template.ofSource? "<i>\x7b\x7bv\x7d\x7d" = .ok included := by cbv
  have executed : ∀ p, t.Executes helpers 4 visible root session.registry p →
      p = t ∨ p = included := by
    rintro p (rfl | ⟨text, among, spells⟩)
    · exact .inl rfl
    · rw [texts, List.mem_singleton] at among
      rw [among, spelled] at spells
      cases spells
      exact .inr rfl
  have escapes : ∀ p, t.Executes helpers 4 visible root session.registry p → p.Escapes := by
    intro p executes value
    rcases executed p executes with rfl | rfl
    · simp [t, Node.leavesAll, Node.leaves]
    · simp [included, Node.leavesAll, Node.leaves]
  have rendered : (a.renderAlone helpers 4 root session.registry).1 =
      .ok "<b>&lt;a&gt;<i>&lt;a&gt;" := by
    -- The template is read instead of the program, since its reading can be computed.
    rw [renderAlone_eq_interpret (t := t) rfl]
    cbv
  exact ⟨executed, rendered,
    render_confined helpers rfl 4 visible root session t rfl
      (Session.answers_uncached _ _ session.registry) escapes rendered⟩

end TextTemplate
