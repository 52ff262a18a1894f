import Mathlib.Data.List.DropRight

/-!
# Python operations

What the services apply to identifiers, model output and prompt values: `str.isspace` and
`str.lower` on one character, `str.strip` and `str.splitlines`, and the slice they cut the end of a
list with.
-/

namespace CocoonSit

/-- `str.isspace` for one character. -/
def isSpace (c : Char) : Bool :=
  let n := c.toNat
  (9 ≤ n && n ≤ 13) || (28 ≤ n && n ≤ 32) || n == 0x85 || n == 0xa0 || n == 0x1680 ||
    (0x2000 ≤ n && n ≤ 0x200a) || n == 0x2028 || n == 0x2029 || n == 0x202f || n == 0x205f ||
    n == 0x3000

def strip (s : String) : String :=
  String.ofList ((s.toList.dropWhile isSpace).reverse.dropWhile isSpace).reverse

example : strip " \t0b7f\n" = "0b7f" := by decide

lemma strip_strip (s : String) : strip (strip s) = strip s := by
  have hstrip : ∀ s, strip s = String.ofList ((s.toList.dropWhile isSpace).rdropWhile isSpace) :=
    fun _ => rfl
  have hfirst : ((s.toList.dropWhile isSpace).rdropWhile isSpace).dropWhile isSpace =
      (s.toList.dropWhile isSpace).rdropWhile isSpace := by
    rw [List.dropWhile_eq_self_iff]
    intro hpos
    have hinit := List.rdropWhile_prefix isSpace (s.toList.dropWhile isSpace)
    rw [List.IsPrefix.getElem hinit]
    exact List.dropWhile_get_zero_not isSpace s.toList (hpos.trans_le hinit.length_le)
  rw [hstrip (strip s), hstrip s, String.toList_ofList, hfirst, List.rdropWhile_idempotent]

lemma strip_ne_of_mem {s : String} {c : Char} (hc : c ∈ s.toList) (hletter : isSpace c = false) :
    strip s ≠ "" := by
  intro h
  have hnil : (s.toList.dropWhile isSpace).reverse.dropWhile isSpace = [] := by
    have hlist := congrArg String.toList h
    rwa [strip, String.toList_ofList, String.toList_empty, List.reverse_eq_nil_iff] at hlist
  rw [List.dropWhile_eq_nil_iff] at hnil
  have hspace : isSpace c = true := by
    rw [← List.takeWhile_append_dropWhile (p := isSpace) (l := s.toList)] at hc
    rcases List.mem_append.mp hc with hc | hc
    · exact List.mem_takeWhile_imp hc
    · exact hnil c (List.mem_reverse.mpr hc)
  rw [hletter] at hspace
  cases hspace

/-- `str.strip() or None`. -/
def stripOrNone (s : String) : Option String :=
  if strip s = "" then none else some (strip s)

lemma stripOrNone_eq_some_iff {s t : String} :
    stripOrNone s = some t ↔ strip s ≠ "" ∧ strip s = t := by
  rw [stripOrNone, Option.ite_none_left_eq_some, Option.some.injEq]

lemma isSome_stripOrNone (s : String) : (stripOrNone s).isSome = decide (strip s ≠ "") := by
  unfold stripOrNone
  by_cases h : strip s = ""
  · simp [h]
  · simp [h]

/-- `str.lower`, as far as an ASCII letter can come of it. -/
def lowerChar (c : Char) : Char :=
  if c = '\u212a' then 'k' else c.toLower

/-- The characters `str.splitlines` breaks at. -/
def isLineBreak (c : Char) : Bool :=
  let n := c.toNat
  (10 ≤ n && n ≤ 13) || (28 ≤ n && n ≤ 30) || n == 0x85 || n == 0x2028 || n == 0x2029

/-- The lines of the rest of a text, `line` being what has been read of the first, backwards. -/
def splitlinesFrom (line : List Char) : List Char → List String
  | [] => if line = [] then [] else [String.ofList line.reverse]
  | '\r' :: '\n' :: cs => String.ofList line.reverse :: splitlinesFrom [] cs
  | c :: cs =>
    if isLineBreak c then String.ofList line.reverse :: splitlinesFrom [] cs
    else splitlinesFrom (c :: line) cs

def splitlines (s : String) : List String := splitlinesFrom [] s.toList

example : splitlines "a\n\nb\r\n" = ["a", "", "b"] := by decide

/-- `xs[-n:]`: the last `n`, everything for `n = 0`, and without the first `-n` for a negative
`n`. -/
def sliceLast {α : Type*} (xs : List α) (n : ℤ) : List α :=
  if 0 < n then xs.rtake n.toNat else xs.drop (-n).toNat

lemma sliceLast_of_pos {α : Type*} {xs : List α} {n : ℕ} (hn : 0 < n) :
    sliceLast xs n = xs.rtake n := by
  rw [sliceLast, if_pos (by exact_mod_cast hn), Int.toNat_natCast]

lemma sliceLast_suffix {α : Type*} (xs : List α) (n : ℤ) : sliceLast xs n <:+ xs := by
  unfold sliceLast
  split <;> exact List.drop_suffix _ _

/-- `xs[:n]`: the first `n`, and without the last `-n` for a negative `n`. -/
def sliceFirst {α : Type*} (xs : List α) (n : ℤ) : List α :=
  if 0 ≤ n then xs.take n.toNat else xs.rdrop (-n).toNat

lemma sliceFirst_sublist {α : Type*} (xs : List α) (n : ℤ) : (sliceFirst xs n).Sublist xs := by
  unfold sliceFirst
  split <;> exact List.take_sublist _ _

lemma length_sliceFirst {α : Type*} {xs : List α} {n : ℤ} (hn : 0 ≤ n) :
    ((sliceFirst xs n).length : ℤ) = min n xs.length := by
  rw [sliceFirst, if_pos hn, List.length_take]
  omega

end CocoonSit
