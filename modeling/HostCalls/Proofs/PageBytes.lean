import HostCalls.Page.Basic
import Mathlib.Tactic.Common

/-!
# Pages as sequences of bytes

`slice` is a stretch of the bytes of a page and `patch` replaces one. Every access to a
page is one of the two: a byte is a stretch of length one and a word is a stretch of length
four. What a store does to other places is then said once, for stretches that do not meet.
-/
namespace HostCalls.Page

/-- The byte at a position; positions past the end hold zero. -/
def byteAt (page : Page) (i : Nat) : UInt8 :=
  if h : i < pageSize then page.get ⟨i, h⟩ else 0

/-- The `n` bytes from a position on. -/
def slice (page : Page) (start n : Nat) : Bytes :=
  (List.range n).map fun i => page.byteAt (start + i)

/-- The page with the bytes from a position on replaced, one after another. What would lie past
the end is lost. -/
def patch (page : Page) (start : Nat) : Bytes → Page
  | [] => page
  | b :: rest =>
    if h : start < pageSize then (page.set ⟨start, h⟩ b).patch (start + 1) rest else page

lemma byteAt_of_lt (page : Page) {i : Nat} (h : i < pageSize) :
    page.byteAt i = page.get ⟨i, h⟩ := dif_pos h

lemma byteAt_of_ge (page : Page) {i : Nat} (h : pageSize ≤ i) : page.byteAt i = 0 :=
  dif_neg (Nat.not_lt.mpr h)

lemma byteAt_set (page : Page) (i : Fin pageSize) (b : UInt8) (j : Nat) :
    (page.set i b).byteAt j = if i.val = j then b else page.byteAt j := by
  by_cases hj : j < pageSize
  · rw [byteAt_of_lt _ hj, byteAt_of_lt _ hj, get_set]
    simp only [Fin.ext_iff]
  · have hne : i.val ≠ j := by have := i.isLt; omega
    rw [byteAt_of_ge _ (Nat.not_lt.mp hj), byteAt_of_ge _ (Nat.not_lt.mp hj), if_neg hne]

/-- Pages with the same bytes are the same. -/
lemma ext_byteAt {page other : Page} (h : ∀ i < pageSize, page.byteAt i = other.byteAt i) :
    page = other := by
  apply ext_get
  intro i
  simpa only [byteAt_of_lt _ i.isLt] using h i.val i.isLt

lemma byteAt_patch_apart (page : Page) (start : Nat) (bytes : Bytes) {j : Nat}
    (h : j < start ∨ start + bytes.length ≤ j) :
    (page.patch start bytes).byteAt j = page.byteAt j := by
  induction bytes generalizing page start with
  | nil => rfl
  | cons b rest ih =>
    simp only [List.length_cons] at h
    simp only [patch]
    split_ifs with hin
    · rw [ih _ (start + 1) (by omega), byteAt_set, if_neg (by dsimp only; omega)]
    · rfl

lemma byteAt_patch (page : Page) (start : Nat) (bytes : Bytes) {k : Nat}
    (hk : k < bytes.length) (hfit : start + k < pageSize) :
    (page.patch start bytes).byteAt (start + k) = bytes[k] := by
  induction bytes generalizing page start k with
  | nil => simp at hk
  | cons b rest ih =>
    have hin : start < pageSize := Nat.lt_of_le_of_lt (Nat.le_add_right start k) hfit
    simp only [patch, dif_pos hin]
    cases k with
    | zero => rw [byteAt_patch_apart _ _ _ (by omega), byteAt_set]; simp
    | succ k =>
      have hnext := ih (page.set ⟨start, hin⟩ b) (start + 1) (k := k)
        (by simpa using hk) (by omega)
      rw [show start + (k + 1) = start + 1 + k by omega, hnext]
      rfl

@[simp] theorem length_slice (page : Page) (start n : Nat) : (page.slice start n).length = n := by
  simp [slice]

@[simp] theorem getElem_slice (page : Page) (start n k : Nat)
    (hk : k < (page.slice start n).length) : (page.slice start n)[k] = page.byteAt (start + k) := by
  simp [slice]

/-- A stretch inside of a stretch. -/
lemma slice_add (page : Page) (start : Nat) {i n m : Nat} (h : i + n ≤ m) :
    page.slice (start + i) n = ((page.slice start m).drop i).take n := by
  apply List.ext_getElem
  · simp only [length_slice, List.length_take, List.length_drop]
    omega
  · intro k _ _
    simp only [getElem_slice, List.getElem_take, List.getElem_drop, Nat.add_assoc]

lemma slice_zero (start n : Nat) : Page.zero.slice start n = List.replicate n 0 := by
  apply List.ext_getElem (by simp)
  intro k _ _
  simp [byteAt]

lemma slice_patch (page : Page) (start : Nat) (bytes : Bytes)
    (hfit : start + bytes.length ≤ pageSize) :
    (page.patch start bytes).slice start bytes.length = bytes := by
  apply List.ext_getElem (by simp)
  intro k _ hk
  rw [getElem_slice]
  exact byteAt_patch page start bytes hk (by omega)

lemma slice_patch_apart (page : Page) (start : Nat) (bytes : Bytes) {other n : Nat}
    (h : other + n ≤ start ∨ start + bytes.length ≤ other) :
    (page.patch start bytes).slice other n = page.slice other n := by
  apply List.map_congr_left
  intro k hk
  have hkn := List.mem_range.mp hk
  exact byteAt_patch_apart page start bytes (by omega)

/-- A stretch patched onto itself changes nothing. -/
lemma patch_slice (page : Page) (start n : Nat) : page.patch start (page.slice start n) = page := by
  apply ext_byteAt
  intro i hi
  by_cases hin : start ≤ i ∧ i < start + n
  · obtain ⟨k, rfl⟩ := Nat.exists_eq_add_of_le hin.1
    rw [byteAt_patch _ _ _ (by rw [length_slice]; omega) hi, getElem_slice]
  · exact byteAt_patch_apart page start _ (by rw [length_slice]; omega)

/-- A stretch may be patched before or after it is copied to another page. -/
lemma patch_slice_patch (page other : Page) (source target : Nat) {i n : Nat} (bytes : Bytes)
    (hin : i + bytes.length ≤ n) (hsource : source + n ≤ pageSize) :
    other.patch target ((page.patch (source + i) bytes).slice source n) =
      (other.patch target (page.slice source n)).patch (target + i) bytes := by
  apply ext_byteAt
  intro j hj
  by_cases hout : j < target ∨ target + n ≤ j
  · rw [byteAt_patch_apart _ _ _ (by rw [length_slice]; exact hout),
      byteAt_patch_apart _ _ _ (by omega),
      byteAt_patch_apart _ _ _ (by rw [length_slice]; exact hout)]
  · obtain ⟨k, rfl⟩ := Nat.exists_eq_add_of_le (by omega : target ≤ j)
    rw [byteAt_patch _ _ _ (by rw [length_slice]; omega) hj, getElem_slice]
    -- inside of the copied stretch the patch decides
    by_cases hpatched : i ≤ k ∧ k < i + bytes.length
    · obtain ⟨l, rfl⟩ := Nat.exists_eq_add_of_le hpatched.1
      rw [← Nat.add_assoc, ← Nat.add_assoc, byteAt_patch _ _ _ (by omega) (by omega),
        byteAt_patch _ _ _ (by omega) (by omega)]
    · rw [byteAt_patch_apart _ _ _ (by omega), byteAt_patch_apart _ _ _ (by omega),
        byteAt_patch _ _ _ (by rw [length_slice]; omega) hj, getElem_slice]

lemma set_eq_patch (page : Page) (i : Fin pageSize) (b : UInt8) :
    page.set i b = page.patch i.val [b] := by
  simp only [patch, dif_pos i.isLt]

lemma getWord_eq_slice (page : Page) (i : Nat) (hfit : i + 3 < pageSize) :
    page.getWord i hfit = Word.ofList (page.slice i 4) := by
  have hslice : page.slice i 4 =
      [page.byteAt i, page.byteAt (i + 1), page.byteAt (i + 2), page.byteAt (i + 3)] := by
    simp [slice, List.range_succ]
  rw [hslice, Word.ofList_four, getWord, byteAt_of_lt, byteAt_of_lt, byteAt_of_lt, byteAt_of_lt]

lemma setWord_eq_patch (page : Page) (i : Nat) (hfit : i + 3 < pageSize) (value : UInt32) :
    page.setWord i hfit value = page.patch i (Word.toBytes value) := by
  have h₀ : i < pageSize := by omega
  have h₁ : i + 1 < pageSize := by omega
  have h₂ : i + 1 + 1 < pageSize := by omega
  simp only [setWord, Word.toBytes, patch, dif_pos h₀, dif_pos h₁, dif_pos h₂, dif_pos hfit]

end HostCalls.Page
