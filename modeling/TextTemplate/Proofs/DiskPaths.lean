import Mathlib.Data.List.Basic
import TextTemplate.Partial.DiskPath

/-!
# Going down in paths

What is added to a path becomes its last piece if it is one piece (`DiskPath.pieces_push`). So a
path to which several pieces were added is what it was before, with the pieces behind it and slashes
between them (`DiskPath.text_descend`). A suffix goes behind the last piece if that has no points
(`DiskPath.withSuffix_push`): nothing of it is taken for an extension.
-/

namespace TextTemplate

namespace DiskPath

variable {path : DiskPath} {piece suffix : String} {pieces : List String}

/-! ## Pieces -/

/-- Whether a text is one piece of a path. -/
def IsPiece (s : String) : Prop := s ≠ "" ∧ '/' ∉ s.toList

theorem IsPiece.append (isPiece : IsPiece piece) (noSlash : '/' ∉ suffix.toList) :
    IsPiece (piece ++ suffix) := by
  refine ⟨fun empty => isPiece.1 (String.append_eq_empty_iff.1 empty).1, ?_⟩
  rw [String.toList_append, List.mem_append, not_or]
  exact ⟨isPiece.2, noSlash⟩

/-- A path is the text of its pieces with slashes between them. -/
theorem ofPieces_pieces (path : DiskPath) : ofPieces path.pieces = path := by
  have slash : "/".toList = ['/'] := rfl
  have back : path.pieces.map String.toList = path.text.toList.splitOn '/' := by
    rw [DiskPath.pieces, List.map_map]
    exact List.map_id'' (fun _ => String.toList_ofList) _
  have text : "/".intercalate path.pieces = path.text := by
    apply String.toList_inj.1
    rw [String.toList_intercalate, slash, back, List.intercalate_splitOn]
  rw [ofPieces, text]

/-- The pieces in front of a slash and those behind it. -/
theorem pieces_of_slash {front rest : List Char} (split : path.text.toList = front ++ '/' :: rest) :
    path.pieces = (front.splitOn '/' ++ rest.splitOn '/').map String.ofList := by
  rw [DiskPath.pieces, split, List.splitOn_append_cons_self]

/-- A slash in front has an empty piece in front of it. -/
theorem pieces_slash (text : String) :
    DiskPath.pieces ⟨"/" ++ text⟩ = "" :: DiskPath.pieces ⟨text⟩ := by
  have split : ("/" ++ text).toList = [] ++ '/' :: text.toList := String.toList_append
  rw [pieces_of_slash split]
  rfl

/-- Pieces that are joined by slashes are found again. -/
theorem pieces_ofPieces (nonempty : pieces ≠ []) (arePieces : ∀ piece ∈ pieces, IsPiece piece) :
    (ofPieces pieces).pieces = pieces := by
  have slash : "/".toList = ['/'] := rfl
  have split : (ofPieces pieces).text.toList.splitOn '/' = pieces.map String.toList := by
    rw [ofPieces, String.toList_intercalate, slash, List.splitOn_intercalate]
    · intro cs mem
      obtain ⟨piece, held, rfl⟩ := List.mem_map.1 mem
      exact (arePieces piece held).2
    · exact fun empty => nonempty (List.map_eq_nil_iff.1 empty)
  rw [DiskPath.pieces, split, List.map_map]
  exact List.map_id'' (fun _ => String.ofList_toList) _

/-- A piece has no slash to be split at. -/
theorem splitOn_of_isPiece (isPiece : IsPiece piece) : piece.toList.splitOn '/' = [piece.toList] :=
  List.splitOn_eq_singleton isPiece.2

/-- The path as it is when something is added to it. -/
def opened (path : DiskPath) : DiskPath := ⟨path.text ++ path.separator⟩

/-- What is open for another piece ends in a slash, or is empty. -/
theorem opened_cases (path : DiskPath) :
    path.opened.text = "" ∨ ∃ front, path.opened.text.toList = front ++ ['/'] := by
  rw [opened, separator]
  split
  · next asItIs =>
    rw [String.append_empty]
    rcases asItIs with empty | slash
    · exact .inl empty
    · exact .inr (List.getLast?_eq_some_iff.1 slash)
  · exact .inr ⟨path.text.toList, String.toList_append⟩

/-- The pieces in front of what is added to the path. -/
def base (path : DiskPath) : List String := path.opened.pieces.dropLast

/-- An open path has an empty piece at its end, where the next one goes. -/
theorem pieces_opened (path : DiskPath) : path.opened.pieces = path.base ++ [""] := by
  rw [base]
  rcases opened_cases path with empty | ⟨front, slash⟩
  · rw [DiskPath.pieces, empty]
    rfl
  · rw [pieces_of_slash slash]
    simp

theorem push_of_isPiece (isPiece : IsPiece piece) :
    path.push piece = ⟨path.opened.text ++ piece⟩ := by
  have relative : piece.toList.head? ≠ some '/' := by
    intro slash
    exact isPiece.2 (List.mem_of_mem_head? slash)
  rw [push, if_neg relative, opened]

/-- What is added to a path becomes its last piece. -/
theorem pieces_push (isPiece : IsPiece piece) :
    (path.push piece).pieces = path.base ++ [piece] := by
  rw [push_of_isPiece isPiece, base]
  rcases opened_cases path with empty | ⟨front, slash⟩
  · simp [DiskPath.pieces, empty, splitOn_of_isPiece isPiece]
  · have split : (path.opened.text ++ piece).toList = front ++ '/' :: piece.toList := by
      rw [String.toList_append, slash, List.append_assoc]
      rfl
    rw [pieces_of_slash split, pieces_of_slash slash, splitOn_of_isPiece isPiece]
    simp

/-- Behind a piece that was added there is a slash when the next one is. -/
theorem separator_push (isPiece : IsPiece piece) : (path.push piece).separator = "/" := by
  have behind : (path.push piece).text.toList.getLast? = piece.toList.getLast? := by
    rw [push_of_isPiece isPiece, String.toList_append]
    exact List.getLast?_append_of_ne_nil _ (mt String.toList_eq_nil_iff.1 isPiece.1)
  -- A path that ends with a piece is not empty and does not end with a slash.
  have nonempty : (path.push piece).text ≠ "" := by
    intro empty
    rw [empty, eq_comm, String.toList_empty, List.getLast?_nil, List.getLast?_eq_none_iff] at behind
    exact isPiece.1 (String.toList_eq_nil_iff.1 behind)
  rw [separator, if_neg]
  rintro (empty | slash)
  · exact nonempty empty
  · rw [behind] at slash
    exact isPiece.2 (List.mem_of_getLast? slash)

theorem separator_cases (path : DiskPath) : path.separator = "" ∨ path.separator = "/" := by
  rw [separator]
  split
  · exact .inl rfl
  · exact .inr rfl

/-- If a slash has to be added, all pieces stay in front of it. -/
theorem base_of_separator (slash : path.separator = "/") : path.base = path.pieces := by
  have opened : path.opened.text.toList = path.text.toList ++ ['/'] := by
    rw [opened, slash, String.toList_append]
    rfl
  rw [base, pieces_of_slash opened, DiskPath.pieces]
  simp

theorem base_push (isPiece : IsPiece piece) : (path.push piece).base = path.base ++ [piece] := by
  rw [base_of_separator (separator_push isPiece), pieces_push isPiece]

/-- A path has an empty piece behind those in front of what is added, or no more pieces. -/
theorem pieces_cases (path : DiskPath) :
    path.pieces = path.base ∨ path.pieces = path.base ++ [""] := by
  rcases separator_cases path with asItIs | slash
  · have same : path.opened = path := by rw [opened, asItIs, String.append_empty]
    right
    rw [← pieces_opened, same]
  · left
    exact (base_of_separator slash).symm

/-! ## Several pieces -/

/-- The path with one piece after the other added to it. -/
def descend (path : DiskPath) (pieces : List String) : DiskPath := pieces.foldl push path

/-- What goes down from a path has the added pieces behind those in front of what is added. -/
theorem pieces_descend (nonempty : pieces ≠ []) (arePieces : ∀ piece ∈ pieces, IsPiece piece) :
    (path.descend pieces).pieces = path.base ++ pieces := by
  induction pieces generalizing path with
  | nil => exact absurd rfl nonempty
  | cons piece rest ih =>
    obtain ⟨isPiece, arePieces⟩ := List.forall_mem_cons.1 arePieces
    show ((path.push piece).descend rest).pieces = _
    by_cases last : rest = []
    · rw [last]
      exact pieces_push isPiece
    · rw [ih last arePieces, base_push isPiece, List.append_assoc]
      rfl

/-- Only the first of the added pieces may do without a slash in front of it. -/
theorem text_descend (nonempty : pieces ≠ []) (arePieces : ∀ piece ∈ pieces, IsPiece piece) :
    (path.descend pieces).text = path.text ++ path.separator ++ "/".intercalate pieces := by
  induction pieces generalizing path with
  | nil => exact absurd rfl nonempty
  | cons piece rest ih =>
    obtain ⟨isPiece, arePieces⟩ := List.forall_mem_cons.1 arePieces
    have front : (path.push piece).text = path.text ++ path.separator ++ piece := by
      rw [push_of_isPiece isPiece, opened]
    show ((path.push piece).descend rest).text = _
    -- Only the first separator depends on the path; behind a piece it is a slash.
    by_cases last : rest = []
    · rw [last, String.intercalate_singleton]
      exact front
    · rw [ih last arePieces, front, separator_push isPiece, String.intercalate_cons_of_ne_nil last]
      simp only [String.append_assoc]

/-! ## Suffixes -/

/-- A name without points has no extension that could be cut off. -/
theorem stem_of_dotless {file : String} (dotless : '.' ∉ file.toList) : stem file = file := by
  rw [stem, List.splitOn_eq_singleton dotless]
  rfl

/-- A piece without points gets the suffix behind it. -/
theorem withSuffix_push (isPiece : IsPiece piece) (dotless : '.' ∉ piece.toList)
    (noSlash : '/' ∉ suffix.toList) :
    (path.push piece).withSuffix suffix = path.push (piece ++ suffix) := by
  have noPoint : piece ≠ "." := by
    rintro rfl
    exact dotless (by decide)
  have noPoints : piece ≠ ".." := by
    rintro rfl
    exact dotless (by decide)
  -- The file is the last piece, as it is neither empty nor a single point.
  have last : (path.push piece).pieces.reverse.dropWhile (fun p => p = "" ∨ p = ".") =
      piece :: path.base.reverse := by
    rw [pieces_push isPiece, List.reverse_append]
    exact List.dropWhile_cons_of_neg (by simp [isPiece.1, noPoint])
  rw [withSuffix, last]
  simp only [if_neg noPoints, List.reverse_reverse, stem_of_dotless dotless]
  rw [← pieces_push (isPiece.append noSlash), ofPieces_pieces]

end DiskPath

end TextTemplate
