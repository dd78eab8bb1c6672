import Mathlib

/-!
# `split_by_newlines`

`coordinator_callback::new_config` logs the `dump()` of a new configuration line by line, cut by `split_by_newlines`.
A `std::string` is its characters; `find_first_of` is `List.indexOf?` (`none` for `npos`); `substr(pos, n)` throws
`out_of_range` when `pos` is past the end, which is `none` here.

`splitByNewlines_spec`: every turn of the loop gets a line and a strictly shorter rest without `substr` throwing, so
the loop ends within as many turns as the string has characters; no line holds a newline; the lines joined with
newlines give back the string, less its last character when that is a newline; and only the empty string gives no
line.
-/

namespace ConsusKvs

/-- `std::string::substr(pos, n)`: `none` where it throws. -/
def substr (s : List Char) (pos n : Nat) : Option (List Char) :=
  if pos ≤ s.length then some ((s.drop pos).take n) else none

/-- One turn of the loop of `split_by_newlines` on the rest `s`: the line it pushes and the rest after it. -/
def splitTurn (s : List Char) : Option (List Char × List Char) :=
  match s.indexOf? '\n' with
  | none => some (s, [])
  | some idx => do
    let line ← substr s 0 idx
    let rest ← substr s (idx + 1) s.length
    pure (line, rest)

/-- The loop of `split_by_newlines` for at most `fuel` turns, pushing onto `v`: `none` if a `substr` throws or the
turns run out before the rest is empty. -/
def splitLoop : Nat → List Char → List (List Char) → Option (List (List Char))
  | _, [], v => some v
  | 0, _ :: _, _ => none
  | fuel + 1, s@(_ :: _), v =>
    match splitTurn s with
    | none => none
    | some (line, rest) => splitLoop fuel rest (v ++ [line])

/-- `split_by_newlines`, given as many turns as the string has characters. -/
def splitByNewlines (s : List Char) : Option (List (List Char)) := splitLoop s.length s []

/-- What the lines of `s` join back to: `s`, less its last character when that is a newline. -/
def joinedLines (s : List Char) : List Char := if s.getLast? = some '\n' then s.dropLast else s

namespace SplitAux

theorem intercalate_cons_of_ne_nil (c : Char) (l : List Char) {ls : List (List Char)} (h : ls ≠ []) :
    [c].intercalate (l :: ls) = l ++ c :: [c].intercalate ls := by
  cases ls with
  | nil => exact absurd rfl h
  | cons l' ls => simp [List.intercalate, List.intersperse]

/-- Where `find_first_of` finds the character: the string is the part before it, the character, and the part after. -/
theorem eq_of_indexOf?_eq_some {s : List Char} {c : Char} {i : Nat} (h : s.indexOf? c = some i) :
    s = s.take i ++ c :: s.drop (i + 1) ∧ c ∉ s.take i := by
  induction s generalizing i with
  | nil => simp [List.indexOf?] at h
  | cons x xs ih =>
    simp only [List.indexOf?, List.findIdx?_cons, List.findIdx?_succ] at h
    split at h
    · cases h
      simp_all
    · rename_i hx
      obtain ⟨j, hj, rfl⟩ := Option.map_eq_some'.1 h
      obtain ⟨h1, h2⟩ := ih hj
      refine ⟨by simp [← h1], ?_⟩
      simp only [List.take_succ_cons, List.mem_cons, not_or]
      exact ⟨fun hc => hx (by simp [hc]), h2⟩

/-- A turn either takes the whole rest, which has no newline, or cuts it at its first newline. -/
theorem splitTurn_cases (s : List Char) :
    ('\n' ∉ s ∧ splitTurn s = some (s, [])) ∨
      ∃ line rest, s = line ++ '\n' :: rest ∧ '\n' ∉ line ∧ splitTurn s = some (line, rest) := by
  cases h : s.indexOf? '\n' with
  | none =>
    refine .inl ⟨fun hm => ?_, by simp [splitTurn, h]⟩
    simpa using List.findIdx?_eq_none_iff.1 h _ hm
  | some i =>
    obtain ⟨hs, hn⟩ := eq_of_indexOf?_eq_some h
    have hi : i + 1 ≤ s.length := by
      have := congrArg List.length hs
      simp only [List.length_append, List.length_cons, List.length_take, List.length_drop] at this
      omega
    refine .inr ⟨s.take i, s.drop (i + 1), hs, hn, ?_⟩
    simp [splitTurn, h, substr, hi, Nat.le_of_succ_le hi]

theorem joinedLines_of_not_mem {s : List Char} (h : '\n' ∉ s) : joinedLines s = s := by
  have : s.getLast? ≠ some '\n' := fun hl => h (List.mem_of_getLast?_eq_some hl)
  simp [joinedLines, this]

theorem joinedLines_cut (line rest : List Char) (h : rest ≠ []) :
    joinedLines (line ++ '\n' :: rest) = line ++ '\n' :: joinedLines rest := by
  obtain ⟨r, x, rfl⟩ := List.eq_nil_or_concat rest |>.resolve_left h
  rw [List.concat_eq_append, ← List.cons_append, ← List.append_assoc]
  simp only [joinedLines, List.getLast?_concat, List.dropLast_concat, Option.some.injEq]
  split_ifs <;> simp

theorem joinedLines_cut_nil (line : List Char) : joinedLines (line ++ ['\n']) = line := by
  simp [joinedLines]

/-- The loop, from any rest it can be given enough turns for, pushes lines with no newline that join back to the
rest. -/
theorem splitLoop_spec (fuel : Nat) (s : List Char) (v : List (List Char)) (h : s.length ≤ fuel) :
    ∃ w, splitLoop fuel s v = some (v ++ w) ∧ (∀ l ∈ w, '\n' ∉ l) ∧ ['\n'].intercalate w = joinedLines s ∧
      (w = [] ↔ s = []) := by
  induction fuel generalizing s v with
  | zero =>
    obtain rfl : s = [] := List.eq_nil_of_length_eq_zero (Nat.le_zero.1 h)
    exact ⟨[], by simp [splitLoop], by simp, rfl, by simp⟩
  | succ fuel ih =>
    cases s with
    | nil => exact ⟨[], by simp [splitLoop], by simp, rfl, by simp⟩
    | cons x xs =>
      rcases splitTurn_cases (x :: xs) with ⟨hn, ht⟩ | ⟨line, rest, hs, hn, ht⟩
      · refine ⟨[x :: xs], ?_, by simpa using hn, ?_, by simp⟩
        · simp [splitLoop, ht]
        · simp [List.intercalate, joinedLines_of_not_mem hn]
      · have hlen : rest.length ≤ fuel := by
          have := congrArg List.length hs
          simp only [List.length_cons, List.length_append] at this h
          omega
        obtain ⟨w, hw, hwn, hwj, hwe⟩ := ih rest (v ++ [line]) hlen
        refine ⟨line :: w, by simp [splitLoop, ht, hw], ?_, ?_, by simp⟩
        · simpa [hn] using hwn
        · rw [hs]
          by_cases hr : rest = []
          · subst hr
            simp [hwe.2 rfl, List.intercalate, joinedLines_cut_nil]
          · rw [intercalate_cons_of_ne_nil _ _ (fun hw' => hr (hwe.1 hw')), hwj, joinedLines_cut _ _ hr]

end SplitAux

open SplitAux

/-- On every string, `split_by_newlines` ends and loses, adds and reorders no character: every turn of its loop gets a
line and a strictly shorter rest without `substr` throwing; no line holds a newline; the lines joined with newlines
are the string, less its last character when that is a newline; and there is no line only for the empty string. -/
theorem splitByNewlines_spec (s : List Char) :
    (∀ t : List Char, t ≠ [] → ∃ line rest, splitTurn t = some (line, rest) ∧ rest.length < t.length) ∧
    ∃ v, splitByNewlines s = some v ∧ (∀ l ∈ v, '\n' ∉ l) ∧
      ['\n'].intercalate v = (if s.getLast? = some '\n' then s.dropLast else s) ∧ (v = [] ↔ s = []) := by
  refine ⟨fun t ht => ?_, ?_⟩
  · rcases splitTurn_cases t with ⟨_, h⟩ | ⟨line, rest, hs, _, h⟩
    · exact ⟨t, [], h, List.length_pos.2 ht⟩
    · refine ⟨line, rest, h, ?_⟩
      rw [hs]
      simp only [List.length_append, List.length_cons]
      omega
  · obtain ⟨w, hw, hwn, hwj, hwe⟩ := splitLoop_spec s.length s [] le_rfl
    exact ⟨w, by simpa using hw, hwn, hwj, hwe⟩

example : splitByNewlines "a\n\nb\n".toList = some ["a".toList, [], "b".toList] := by decide

end ConsusKvs
