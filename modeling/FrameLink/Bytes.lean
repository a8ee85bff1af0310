/-
  Strings of bytes.

  A byte string is a list of bytes.  `Bytes.split?` cuts a
  given number of bytes off the front in one walk, and fails
  where there are fewer.

  Key definitions include:
    * `Bytes`
    * `Bytes.split?`
-/

------------------------------------------------------------
-- Byte Strings
------------------------------------------------------------

namespace FrameLink

/- A string of bytes. -/
abbrev Bytes := List UInt8

namespace Bytes

/- The first `n` bytes and the rest, if there are so many. -/
def split? : Nat → Bytes → Option (Bytes × Bytes)
  | 0, bs => some ([], bs)
  | _ + 1, [] => none
  | n + 1, b :: bs =>
      match split? n bs with
      | some (front, rest) => some (b :: front, rest)
      | none => none

/- A cut is made exactly at a front of the given length. -/
theorem split?_eq_some_iff
    {n : Nat} {bs front rest : Bytes} :
    split? n bs = some (front, rest) ↔
      bs = front ++ rest ∧ front.length = n := by
  induction n generalizing bs front rest with
  | zero =>
      simp only [split?, Option.some.injEq, Prod.mk.injEq,
        List.length_eq_zero_iff]
      constructor
      · rintro ⟨rfl, rfl⟩
        exact ⟨rfl, rfl⟩
      · rintro ⟨rfl, rfl⟩
        exact ⟨rfl, rfl⟩
  | succ n ih =>
      cases bs with
      | nil =>
          simp only [split?, reduceCtorEq, false_iff]
          rintro ⟨h, hLength⟩
          have hFront : front = [] :=
            (List.append_eq_nil_iff.mp h.symm).1
          simp [hFront] at hLength
      | cons b bs =>
          cases hCut : split? n bs with
          | none =>
              simp only [split?, hCut, reduceCtorEq, false_iff]
              rintro ⟨h, hLength⟩
              cases front with
              | nil => simp at hLength
              | cons c front =>
                  have hTail : bs = front ++ rest :=
                    (List.cons.inj h).2
                  have hSome := ih.mpr
                    ⟨hTail, Nat.succ.inj hLength⟩
                  simp [hCut] at hSome
          | some cut =>
              obtain ⟨front₀, rest₀⟩ := cut
              obtain ⟨hBytes, hLength⟩ := ih.mp hCut
              simp only [split?, hCut, Option.some.injEq,
                Prod.mk.injEq]
              constructor
              · rintro ⟨rfl, rfl⟩
                exact ⟨by rw [hBytes]; rfl, by simp [hLength]⟩
              · rintro ⟨h, hCount⟩
                cases front with
                | nil => simp at hCount
                | cons c front =>
                    obtain ⟨hHead, hTail⟩ := List.cons.inj h
                    have hSome := ih.mpr
                      ⟨hTail, Nat.succ.inj hCount⟩
                    rw [hCut] at hSome
                    obtain ⟨rfl, rfl⟩ :=
                      Prod.mk.inj (Option.some.inj hSome)
                    exact ⟨by rw [hHead], rfl⟩

/- No cut is made where there are too few bytes. -/
theorem split?_eq_none_iff
    {n : Nat} {bs : Bytes} :
    split? n bs = none ↔ bs.length < n := by
  induction n generalizing bs with
  | zero => simp [split?]
  | succ n ih =>
      cases bs with
      | nil => simp [split?]
      | cons b bs =>
          cases hCut : split? n bs with
          | none => simp [split?, hCut, ih.mp hCut]
          | some cut =>
              have hNot : ¬ bs.length < n := by
                rw [← ih, hCut]
                simp
              simp [split?, hCut, hNot]

end Bytes

end FrameLink
