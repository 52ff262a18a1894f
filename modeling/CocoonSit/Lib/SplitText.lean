import Mathlib.Data.String.Basic

/-!
# Splitting a text at a character

`String.splitOn` walks over byte positions.  At a separator of one character it gives what
`List.splitOnP` gives of the characters, which evaluates.
-/

namespace SplitText

open String

lemma splitOnAux_singleton (d : Char) (l m r : List Char) (acc : List String) :
    splitOnAux (ofList (l ++ m ++ r)) (String.singleton d) ⟨utf8Len l⟩ ⟨utf8Len l + utf8Len m⟩ 0
        acc =
      acc.reverse ++ (List.splitOnPPrepend (· == d) r m.reverse).map ofList := by
  have hget : (0 : Pos.Raw).get (String.singleton d) = d := get_of_valid [] [d]
  have hstep : (0 : Pos.Raw).next (String.singleton d) = ⟨utf8Len [] + d.utf8Size⟩ :=
    next_of_valid [] d []
  have hend : ((0 : Pos.Raw).next (String.singleton d)).atEnd (String.singleton d) = true := by
    rw [hstep]
    simpa using atEnd_of_valid [d] []
  induction r generalizing l m acc with
  | nil =>
    have hat : Pos.Raw.atEnd (ofList (l ++ m ++ [])) ⟨utf8Len l + utf8Len m⟩ = true := by
      have hiff := atEnd_of_valid (l ++ m) []
      rw [utf8Len_append] at hiff
      exact hiff.mpr rfl
    unfold splitOnAux
    rw [if_pos hat, extract_of_valid l m []]
    simp
  | cons c r ih =>
    have hat : Pos.Raw.atEnd (ofList (l ++ m ++ c :: r)) ⟨utf8Len l + utf8Len m⟩ = false := by
      have hiff := atEnd_of_valid (l ++ m) (c :: r)
      rw [utf8Len_append] at hiff
      exact Bool.eq_false_iff.mpr fun h => List.cons_ne_nil c r (hiff.mp h)
    have hc : Pos.Raw.get (ofList (l ++ m ++ c :: r)) ⟨utf8Len l + utf8Len m⟩ = c := by
      simpa [-ofList_append] using get_of_valid (l ++ m) (c :: r)
    have hnext : Pos.Raw.next (ofList (l ++ m ++ c :: r)) ⟨utf8Len l + utf8Len m⟩ =
        ⟨utf8Len l + utf8Len m + c.utf8Size⟩ := by
      simpa [-ofList_append] using next_of_valid (l ++ m) c r
    unfold splitOnAux
    simp only [hat, hc, hget, hnext, hend]
    rw [if_neg Bool.false_ne_true, List.splitOnPPrepend_cons_eq_if]
    by_cases hd : (c == d) = true
    · rw [if_pos hd, if_pos trivial, if_pos hd]
      obtain rfl : c = d := by simpa using hd
      have hback : (⟨utf8Len l + utf8Len m + c.utf8Size⟩ : Pos.Raw).unoffsetBy
          ((0 : Pos.Raw).next (String.singleton c)) = ⟨utf8Len l + utf8Len m⟩ := by
        rw [hstep]
        simp [Pos.Raw.unoffsetBy]
      rw [hback, extract_of_valid l m (c :: r)]
      simpa [Nat.add_assoc] using ih (l ++ m ++ [c]) [] (ofList m :: acc)
    · rw [if_neg hd, if_neg hd]
      have hstay : (⟨utf8Len l + utf8Len m⟩ : Pos.Raw).unoffsetBy 0 =
          ⟨utf8Len l + utf8Len m⟩ := rfl
      rw [hstay, hnext]
      simpa [Nat.add_assoc] using ih l (m ++ [c]) acc

lemma splitOn_singleton (s : String) (d : Char) :
    s.splitOn (String.singleton d) = (s.toList.splitOnP (· == d)).map ofList := by
  have hne : (String.singleton d == "") = false := by simp
  have h := splitOnAux_singleton d [] [] s.toList []
  simp only [List.nil_append, ofList_toList] at h
  rw [splitOn, hne]
  exact h

end SplitText
