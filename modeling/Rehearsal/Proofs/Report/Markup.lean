import Rehearsal.Proofs.Decimal.Numerals
import Rehearsal.Proofs.Files.Leaves
import Rehearsal.Report.Html

/-! # Markup

A document is a row of tags, each with a text after it. Whatever the texts hold, what is written of
such a row reads back as it: a text has no bracket of a tag in it, and its entities stand for the
characters that it was made of.
-/

namespace Rehearsal

/-- Where the mark begins each of the texts that follow, cutting at it gives them back. -/
theorem Text.parts_flatMap {mark : Char} {text : List Char} {bodies : List (List Char)}
    (absent : mark ∉ text) (others : ∀ body ∈ bodies, mark ∉ body) :
    Text.parts mark (text ++ bodies.flatMap (mark :: ·)) = text :: bodies := by
  induction bodies generalizing text with
  | nil => rw [List.flatMap_nil, List.append_nil, Text.parts_of_not_mem absent]
  | cons body rest ih =>
      obtain ⟨first, others⟩ := List.forall_mem_cons.mp others
      rw [List.flatMap_cons, List.cons_append, Text.parts_append_mark absent, ih first others]

/-- What stands between two marks is a part, and not the one before the first mark. -/
theorem Text.mem_tail_parts {mark : Char} {body : List Char} (absent : mark ∉ body)
    (before after : List Char) :
    body ∈ (Text.parts mark (before ++ mark :: (body ++ mark :: after))).tail := by
  induction before with
  | nil => simp [Text.parts, Text.parts_append_mark absent]
  | cons c before ih =>
      rw [List.cons_append, Text.parts]
      split
      · exact List.mem_of_mem_tail ih
      · cases cut : Text.parts mark (before ++ mark :: (body ++ mark :: after)) with
        | nil => exact absurd cut (Text.parts_ne_nil _ _)
        | cons part others => simpa [cut] using ih

theorem mapM_map_some {α β γ : Type} {write : α → β} {read : β → Option γ} {kept : α → γ}
    (reads : ∀ entry, read (write entry) = some (kept entry)) (entries : List α) :
    (entries.map write).mapM read = some (entries.map kept) := by
  have same : read ∘ write = fun entry => pure (kept entry) := funext reads
  rw [List.mapM_map, same]
  exact List.mapM_pure

namespace Report

/-- The characters that a text inside markup stands for; none if it has an ampersand that does not
begin an entity. -/
def unescape : List Char → Option (List Char)
  | [] => some []
  | '&' :: 'a' :: 'm' :: 'p' :: ';' :: rest => (unescape rest).map ('&' :: ·)
  | '&' :: 'l' :: 't' :: ';' :: rest => (unescape rest).map ('<' :: ·)
  | '&' :: 'g' :: 't' :: ';' :: rest => (unescape rest).map ('>' :: ·)
  | '&' :: 'q' :: 'u' :: 'o' :: 't' :: ';' :: rest => (unescape rest).map ('"' :: ·)
  | '&' :: '#' :: '3' :: '9' :: ';' :: rest => (unescape rest).map ('\'' :: ·)
  | '&' :: _ => none
  | c :: rest => (unescape rest).map (c :: ·)

theorem unescape_cons {c : Char} (plain : c ≠ '&') (rest : List Char) :
    unescape (c :: rest) = (unescape rest).map (c :: ·) := by
  rw [unescape] <;> simp [plain]

theorem unescape_escapeChar (c : Char) (rest : List Char) :
    unescape (escapeChar c ++ rest) = (unescape rest).map (c :: ·) := by
  unfold escapeChar
  split
  case h_6 plain _ _ _ _ => exact unescape_cons plain rest
  all_goals rfl

theorem toList_escape (text : String) : (escape text).toList = text.toList.flatMap escapeChar :=
  String.toList_ofList

theorem unescape_escape (text : String) : unescape (escape text).toList = some text.toList := by
  rw [toList_escape]
  induction text.toList with
  | nil => rfl
  | cons c rest ih => rw [List.flatMap_cons, unescape_escapeChar, ih, Option.map_some]

theorem bracket_not_mem_escapeChar (c : Char) : '<' ∉ escapeChar c ∧ '>' ∉ escapeChar c := by
  unfold escapeChar
  split
  case h_6 => simp_all [eq_comm]
  all_goals decide

theorem bracket_not_mem_escape (text : String) :
    '<' ∉ (escape text).toList ∧ '>' ∉ (escape text).toList := by
  simp [toList_escape, bracket_not_mem_escapeChar]

/-- A tag and the text up to the next one. -/
structure Piece where
  tag : String
  text : String
  closed : '<' ∉ tag.toList ∧ '>' ∉ tag.toList := by decide +kernel

namespace Piece

/-- The tag without what follows its name. -/
def name (piece : Piece) : String :=
  String.ofList (piece.tag.toList.takeWhile (· ≠ ' '))

/-- What stands between the brackets that open this tag and the next. -/
def body (piece : Piece) : List Char :=
  piece.tag.toList ++ '>' :: (escape piece.text).toList

def ofBody? (body : List Char) : Option Piece :=
  match Text.parts '>' body with
  | [tag, text] =>
    if closed : '<' ∉ (String.ofList tag).toList ∧ '>' ∉ (String.ofList tag).toList then
      (unescape text).map fun text => ⟨String.ofList tag, String.ofList text, closed⟩
    else none
  | _ => none

theorem open_not_mem_body (piece : Piece) : '<' ∉ piece.body := by
  simp [body, piece.closed, bracket_not_mem_escape]

theorem ofBody?_body (piece : Piece) : ofBody? piece.body = some piece := by
  have parts : Text.parts '>' piece.body = [piece.tag.toList, (escape piece.text).toList] := by
    rw [body, Text.parts_append_mark piece.closed.2,
      Text.parts_of_not_mem (bracket_not_mem_escape piece.text).2]
  rw [ofBody?, parts]
  simp [piece.closed, unescape_escape]

theorem body_inj {piece other : Piece} (same : piece.body = other.body) : piece = other := by
  have read := piece.ofBody?_body
  rw [same, other.ofBody?_body] at read
  exact (Option.some_inj.mp read).symm

end Piece

def markup (pieces : List Piece) : String :=
  String.ofList (pieces.flatMap fun piece => '<' :: piece.body)

/-- The tags and texts of a document that begins with a tag. -/
def readMarkup (document : String) : Option (List Piece) :=
  match Text.parts '<' document.toList with
  | [] :: bodies => bodies.mapM Piece.ofBody?
  | _ => none

theorem parts_markup (pieces : List Piece) :
    Text.parts '<' (markup pieces).toList = [] :: pieces.map Piece.body := by
  have absent : ∀ body ∈ pieces.map Piece.body, '<' ∉ body :=
    List.forall_mem_map.mpr fun piece _ => piece.open_not_mem_body
  rw [markup, String.toList_ofList, ← Text.parts_flatMap List.not_mem_nil absent,
    List.nil_append, List.flatMap_map]

theorem readMarkup_markup (pieces : List Piece) : readMarkup (markup pieces) = some pieces := by
  calc readMarkup (markup pieces)
    _ = (pieces.map Piece.body).mapM Piece.ofBody? := by rw [readMarkup, parts_markup]
    _ = some (pieces.map id) := mapM_map_some Piece.ofBody?_body pieces
    _ = some pieces := by rw [List.map_id]

theorem markup_nil : markup [] = "" := by rfl

theorem markup_cons (piece : Piece) (rest : List Piece) :
    markup (piece :: rest) =
      "<" ++ piece.tag ++ ">" ++ escape piece.text ++ markup rest := by
  apply String.ext
  simp [markup, Piece.body]

theorem markup_append (front back : List Piece) :
    markup (front ++ back) = markup front ++ markup back := by
  rw [markup, List.flatMap_append, String.ofList_append]
  rfl

theorem markup_flatMap {α : Type} (pieces : α → List Piece) (entries : List α) :
    markup (entries.flatMap pieces) =
      String.join (entries.map fun entry => markup (pieces entry)) := by
  induction entries with
  | nil => rfl
  | cons entry rest ih =>
      rw [List.flatMap_cons, markup_append, ih, List.map_cons, String.join_cons]

theorem escape_append (front back : String) :
    escape (front ++ back) = escape front ++ escape back := by
  rw [escape, String.toList_append, List.flatMap_append, String.ofList_append]
  rfl

/-- A text that is the same inside markup. -/
def Plain (text : String) : Prop :=
  ∀ c ∈ text.toList, escapeChar c = [c]

-- Character by character of the text; all characters there are would be another way to decide it.
instance (text : String) : Decidable (Plain text) :=
  List.decidableBAll _ text.toList

theorem escapeChar_of_isDigit {c : Char} (digit : c.isDigit = true) : escapeChar c = [c] := by
  unfold escapeChar
  split
  case h_6 => rfl
  all_goals simp_all

namespace Plain

variable {text more : String}

theorem escape_eq (plain : Plain text) : escape text = text := by
  have same : text.toList.flatMap escapeChar = text.toList := by
    rw [List.flatMap_congr plain]
    exact List.flatMap_singleton' _
  rw [escape, same, String.ofList_toList]

theorem ofList {chars : List Char} (plain : ∀ c ∈ chars, escapeChar c = [c]) :
    Plain (String.ofList chars) := by
  rwa [Plain, String.toList_ofList]

theorem of_all {chars : List Char} (plain : (chars.all fun c => escapeChar c == [c]) = true) :
    Plain (String.ofList chars) :=
  ofList fun c member => eq_of_beq (List.all_eq_true.mp plain c member)

theorem append (plain : Plain text) (further : Plain more) : Plain (text ++ more) := by
  intro c member
  rw [String.toList_append, List.mem_append] at member
  exact member.elim (plain c) (further c)

theorem ofNumeral (numeral : Decimal.Numeral text) : Plain text := by
  have marks : Plain (String.ofList ['-', '.', 'N', 'a', 'i', 'n', 'f']) := of_all (by decide)
  intro c member
  refine (numeral c member).elim escapeChar_of_isDigit fun mark => marks c ?_
  rwa [String.toList_ofList]

theorem natural (n : Nat) : Plain (toString n) :=
  ofNumeral (.natural n)

theorem fixed (places : Nat) (x : Float) : Plain (Decimal.fixed places x) :=
  ofNumeral (.fixed places x)

end Plain

end Report

end Rehearsal
