import HostCalls.Proofs.Registers
import Mathlib.Tactic.IntervalCases

/-!
# Requests in the register block

The registers of a request are a byte at the beginning of the block, and five words in a row from
the fifth byte on. So a request is issued by patching one stretch of the page, word by word, and
then the byte before it. Whatever comes of the words, the byte is not touched before all of them are
in place. A window that is too small for the block lacks room for one of the words, so that the byte
is not reached at all.
-/
namespace HostCalls

namespace Page

/-- Two stretches in a row are patched one after the other. -/
lemma patch_append (page : Page) (start : Nat) (first second : Bytes) :
    page.patch start (first ++ second) =
      (page.patch start first).patch (start + first.length) second := by
  induction first generalizing page start with
  | nil => rfl
  | cons b rest ih =>
    simp only [List.cons_append, patch, List.length_cons]
    split_ifs with hin
    · rw [ih, Nat.add_assoc, Nat.add_comm 1]
    · -- nothing fits any more
      have hout : ¬ start + (rest.length + 1) < pageSize := by omega
      cases second with
      | nil => rfl
      | cons b' rest' => rw [patch, dif_neg hout]

lemma slice_append (page : Page) (start m n : Nat) :
    page.slice start (m + n) = page.slice start m ++ page.slice (start + m) n := by
  simp only [slice, List.range_add, List.map_append, List.map_map, Function.comp_def,
    Nat.add_assoc]

/-- The page that work leaves, whether it aborted or not. -/
def left {α : Type} : EStateM.Result Abort Page α → Page
  | .ok _ page => page
  | .error _ page => page

/-- The word at a position. -/
def wordAt (page : Page) (i : Nat) : UInt32 := Word.ofList (page.slice i 4)

/-- The request in a block that begins at a position. -/
def requestAt (page : Page) (base : Nat) : Request :=
  ⟨page.byteAt base, page.wordAt (base + 4), page.wordAt (base + 8), page.wordAt (base + 12),
    page.wordAt (base + 16), page.wordAt (base + 20)⟩

@[simp] theorem toBytes_wordAt (page : Page) (i : Nat) :
    Word.toBytes (page.wordAt i) = page.slice i 4 := by
  have hlen := page.length_slice i 4
  rw [wordAt]
  match page.slice i 4, hlen with
  | [b₀, b₁, b₂, b₃], _ => rw [Word.ofList_four, Word.toBytes_ofBytes]

end Page

/-! ## Words in a row -/

lemma Word.length_flatMap_toBytes (words : List UInt32) :
    (words.flatMap Word.toBytes).length = 4 * words.length := by
  induction words with
  | nil => rfl
  | cons value rest ih =>
    rw [List.flatMap_cons, List.length_append, ih, Word.length_toBytes, List.length_cons]
    omega

namespace Page

variable {offset : UInt64} (page : Page) (hsmall : offset.toNat + 4 < 0x10000000000000000)
  (hover : 4096 < offset.toNat + 4)

include hsmall hover

/-- A word that does not fit is not read. -/
lemma readWord_of_overrun : readWord offset page = .error .bounds page := by
  have hend : offset.toNat + (UInt64.ofNat Word.size).toNat < 0x10000000000000000 := hsmall
  have hout : ¬ offset.toNat + 3 < 4096 := by omega
  simp only [readWord, bind, EStateM.bind, PageM.ofExcept, checkedAdd, if_pos hend, dif_neg hout]

/-- A word that does not fit is not stored, not even in part. -/
lemma writeWord_of_overrun (value : UInt32) :
    writeWord offset value page = .error .bounds page := by
  have hend : offset.toNat + (UInt64.ofNat Word.size).toNat < 0x10000000000000000 := hsmall
  have hout : ¬ offset.toNat + 3 < 4096 := by omega
  simp only [writeWord, bind, EStateM.bind, PageM.ofExcept, checkedAdd, if_pos hend, dif_neg hout]

end Page

namespace Window

variable (window : Window) {offset : UInt64} (page : Page)

lemma resolve_of_small (h : window.base.toNat + offset.toNat < 0x10000000000000000) :
    ∃ place, window.resolve offset page = .ok place page ∧
      place.toNat = window.base.toNat + offset.toNat := by
  have hsum : checkedAdd window.base offset = .ok (window.base + offset) := if_pos h
  refine ⟨window.base + offset, ?_, checkedAdd_ok hsum⟩
  rw [resolve, hsum]
  rfl

section

variable (hsmall : window.base.toNat + offset.toNat + 4 < 0x10000000000000000)
  (hover : 4096 < window.base.toNat + offset.toNat + 4)

include hsmall hover

lemma readWord_of_overrun : window.readWord offset page = .error .bounds page := by
  obtain ⟨place, hresolve, hplace⟩ :=
    window.resolve_of_small page (Nat.lt_of_le_of_lt (Nat.le_add_right _ 4) hsmall)
  rw [← hplace] at hsmall hover
  simp only [readWord, bind, EStateM.bind, hresolve]
  exact page.readWord_of_overrun hsmall hover

lemma writeWord_of_overrun (value : UInt32) :
    window.writeWord offset value page = .error .bounds page := by
  obtain ⟨place, hresolve, hplace⟩ :=
    window.resolve_of_small page (Nat.lt_of_le_of_lt (Nat.le_add_right _ 4) hsmall)
  rw [← hplace] at hsmall hover
  simp only [writeWord, bind, EStateM.bind, hresolve]
  exact page.writeWord_of_overrun hsmall hover value

end

/-- What aborts after a word is read aborts also if the word is not read. -/
lemma readWord_bind_of_bounds {α : Type} {next : UInt32 → PageM α} (hsmall : offset.toNat ≤ 4096)
    (hnext : ∀ value, next value page = .error .bounds page) :
    (window.readWord offset >>= next) page = .error .bounds page := by
  have hbase : window.base.toNat < 4096 := window.inside
  by_cases hfit : window.base.toNat + offset.toNat + 4 ≤ 4096
  · simp only [bind, EStateM.bind, window.readWord_eq offset page hfit, hnext]
  · simp only [bind, EStateM.bind,
      window.readWord_of_overrun page (by omega) (Nat.not_le.mp hfit)]

/-- Stores words in a row. -/
def writeWords (offset : UInt64) : List UInt32 → PageM Unit
  | [] => pure ()
  | value :: rest => do
    window.writeWord offset value
    writeWords (offset + 4) rest

lemma toNat_add_four (h : offset.toNat + 4 < 0x10000000000000000) :
    (offset + 4).toNat = offset.toNat + 4 := by
  rw [UInt64.toNat_add]
  exact Nat.mod_eq_of_lt h

/-- Words that fit are one stretch of the page. -/
lemma writeWords_of_fits (words : List UInt32)
    (hfit : window.base.toNat + offset.toNat + 4 * words.length ≤ 4096) :
    window.writeWords offset words page =
      .ok () (page.patch (window.base.toNat + offset.toNat) (words.flatMap Word.toBytes)) := by
  induction words generalizing offset page with
  | nil => rfl
  | cons value rest ih =>
    simp only [List.length_cons] at hfit
    have hfirst : window.base.toNat + offset.toNat + 4 ≤ 4096 := by omega
    have hnext : (offset + 4).toNat = offset.toNat + 4 := toNat_add_four (by omega)
    simp only [writeWords, bind, EStateM.bind, window.writeWord_eq offset value page hfirst]
    rw [ih _ (by omega), hnext, ← Nat.add_assoc, List.flatMap_cons, Page.patch_append,
      Word.length_toBytes]

/-- Words of which the last does not fit are stored up to the first that does not. -/
lemma writeWords_of_overrun (words : List UInt32) (hwords : words ≠ [])
    (hsmall : window.base.toNat + offset.toNat + 4 * words.length < 0x10000000000000000)
    (hover : 4096 < window.base.toNat + offset.toNat + 4 * words.length) :
    ∃ count < words.length, window.writeWords offset words page =
      .error .bounds (page.patch (window.base.toNat + offset.toNat)
        ((words.take count).flatMap Word.toBytes)) := by
  induction words generalizing offset page with
  | nil => exact absurd rfl hwords
  | cons value rest ih =>
    simp only [List.length_cons] at hsmall hover ⊢
    by_cases hfirst : window.base.toNat + offset.toNat + 4 ≤ 4096
    · have hnext : (offset + 4).toNat = offset.toNat + 4 := toNat_add_four (by omega)
      have hrest : rest ≠ [] := by
        rintro rfl
        simp only [List.length_nil] at hover
        omega
      obtain ⟨count, hcount, hwrite⟩ := @ih (offset + 4)
        (page.patch (window.base.toNat + offset.toNat) (Word.toBytes value)) hrest
        (by omega) (by omega)
      refine ⟨count + 1, by omega, ?_⟩
      simp only [writeWords, bind, EStateM.bind, window.writeWord_eq offset value page hfirst]
      rw [hwrite, hnext, ← Nat.add_assoc, List.take_succ_cons, List.flatMap_cons,
        Page.patch_append, Word.length_toBytes]
    · refine ⟨0, by omega, ?_⟩
      simp only [writeWords, bind, EStateM.bind,
        window.writeWord_of_overrun page (by omega) (Nat.not_le.mp hfirst) value]
      rfl

/-- Whatever comes of words in a row, some of them are stored and nothing else. -/
lemma left_writeWords (words : List UInt32)
    (hsmall : window.base.toNat + offset.toNat + 4 * words.length < 0x10000000000000000) :
    ∃ count, Page.left (window.writeWords offset words page) =
      page.patch (window.base.toNat + offset.toNat)
        ((words.take count).flatMap Word.toBytes) := by
  by_cases hfit : window.base.toNat + offset.toNat + 4 * words.length ≤ 4096
  · refine ⟨words.length, ?_⟩
    rw [window.writeWords_of_fits page words hfit, List.take_length]
    rfl
  · by_cases hwords : words = []
    · subst hwords
      exact ⟨0, rfl⟩
    · obtain ⟨count, _, hwrite⟩ :=
        window.writeWords_of_overrun page words hwords hsmall (Nat.not_le.mp hfit)
      refine ⟨count, ?_⟩
      rw [hwrite]
      rfl

end Window

/-! ## Requests -/

namespace Request

/-- The values of the words, in the order of their registers. -/
def words (request : Request) : List UInt32 :=
  [request.service, request.requestAddr, request.requestLen, request.responseAddr,
    request.responseSize]

/-- Makes the first `count` stores of a request. -/
def issue (request : Request) (count : Nat) (window : Window) : PageM Unit :=
  (request.stores.take count).forM fun store => store window

/-- The page after the first `count` stores of a request, or at the one that aborted. -/
def underway (request : Request) (count : Nat) (window : Window) (page : Page) : Page :=
  Page.left (request.issue count window page)

section

variable (request : Request) (window : Window) (page : Page)

lemma issue_of_le {count : Nat} (h : count ≤ 5) :
    request.issue count window = window.writeWords 4 (request.words.take count) := by
  interval_cases count <;> rfl

lemma issue_of_ge {count : Nat} (h : 6 ≤ count) :
    request.issue count window = request.write window := by
  rw [issue, write, List.take_of_length_le h]

/-- The words come first. -/
lemma write_eq :
    request.write window =
      (window.writeWords 4 request.words >>= fun _ => window.writeByte 0 request.control) := by
  have hstores : request.stores =
      request.stores.take 5 ++ [Layout.control.write request.control] := rfl
  have hwords := request.issue_of_le window (Nat.le_refl 5)
  rw [issue, List.forM_eq_forM] at hwords
  rw [write, hstores, List.forM_eq_forM, List.forM_append, hwords, List.forM_cons, List.forM_nil,
    bind_pure_unit]
  rfl

lemma write_of_fits (hfit : window.base.toNat + 0x18 ≤ 4096) :
    request.write window page =
      .ok () ((page.patch (window.base.toNat + 4) (request.words.flatMap Word.toBytes)).patch
        window.base.toNat [request.control]) := by
  have hwords : window.base.toNat + (4 : UInt64).toNat + 4 * request.words.length ≤ 4096 := hfit
  have hcontrol : window.base.toNat + (0 : UInt64).toNat + 1 ≤ 4096 := by
    show window.base.toNat + 0 + 1 ≤ 4096
    omega
  rw [write_eq]
  simp only [bind, EStateM.bind, window.writeWords_of_fits page request.words hwords,
    window.writeByte_eq 0 _ _ hcontrol]
  rfl

/-- A window that is too small has no room for one of the words. -/
lemma write_of_overrun (hover : 4096 < window.base.toNat + 0x18) :
    ∃ count, request.write window page =
      .error .bounds (page.patch (window.base.toNat + 4)
        ((request.words.take count).flatMap Word.toBytes)) := by
  have hbase : window.base.toNat < 4096 := window.inside
  have hwords : 4096 < window.base.toNat + (4 : UInt64).toNat + 4 * request.words.length := hover
  have hsmall : window.base.toNat + (4 : UInt64).toNat + 4 * request.words.length <
      0x10000000000000000 := by
    show window.base.toNat + 4 + 20 < 0x10000000000000000
    omega
  obtain ⟨count, _, hwrite⟩ :=
    window.writeWords_of_overrun page request.words (by simp [words]) hsmall hwords
  refine ⟨count, ?_⟩
  rw [write_eq]
  simp only [bind, EStateM.bind, hwrite]
  rfl

/-- At every point either some of the words are stored and nothing else, or the request is. -/
lemma underway_cases (count : Nat) :
    (∃ stored, request.underway count window page =
      page.patch (window.base.toNat + 4) ((request.words.take stored).flatMap Word.toBytes)) ∨
    6 ≤ count ∧ window.base.toNat + 0x18 ≤ 4096 ∧
      request.write window page = .ok () (request.underway count window page) := by
  rw [underway]
  have hbase : window.base.toNat < 4096 := window.inside
  by_cases hcount : count ≤ 5
  · have hsmall : window.base.toNat + (4 : UInt64).toNat + 4 * (request.words.take count).length <
        0x10000000000000000 := by
      have hlength := List.length_take_le' count request.words
      have hwords : request.words.length = 5 := rfl
      show window.base.toNat + 4 + _ < 0x10000000000000000
      omega
    obtain ⟨stored, hstored⟩ := window.left_writeWords page (request.words.take count) hsmall
    rw [List.take_take] at hstored
    rw [request.issue_of_le window hcount]
    exact .inl ⟨_, hstored⟩
  · have hall : 6 ≤ count := by omega
    rw [request.issue_of_ge window hall]
    by_cases hfit : window.base.toNat + 0x18 ≤ 4096
    · rw [request.write_of_fits window page hfit]
      exact .inr ⟨hall, hfit, rfl⟩
    · obtain ⟨stored, hwrite⟩ := request.write_of_overrun window page (Nat.not_le.mp hfit)
      rw [hwrite]
      exact .inl ⟨stored, rfl⟩

lemma read_of_fits (hfit : window.base.toNat + 0x18 ≤ 4096) :
    read window page = .ok (page.requestAt window.base.toNat) page := by
  have hword (offset : UInt64) (h : offset.toNat + 4 ≤ 0x18) :
      window.readWord offset page = .ok (page.wordAt (window.base.toNat + offset.toNat)) page :=
    window.readWord_eq offset page (by show _ ≤ 4096; omega)
  have hcontrol : window.readByte 0 page = .ok (page.byteAt window.base.toNat) page :=
    window.readByte_eq 0 page (by show window.base.toNat + 0 + 1 ≤ 4096; omega)
  simp only [read, Register.read, Stored.load, Layout.control, Layout.service, Layout.requestAddr,
    Layout.requestLen, Layout.responseAddr, Layout.responseSize, bind, EStateM.bind, hcontrol,
    hword 0x04 (by decide), hword 0x08 (by decide), hword 0x0c (by decide),
    hword 0x10 (by decide), hword 0x14 (by decide)]
  rfl

/-- A window that is too small has no room for the last word, and reading does not get past it. -/
lemma read_of_overrun (hover : 4096 < window.base.toNat + 0x18) :
    read window page = .error .bounds page := by
  have hbase : window.base.toNat < 4096 := window.inside
  have hcontrol : window.readByte 0 page = .ok (page.byteAt window.base.toNat) page :=
    window.readByte_eq 0 page hbase
  have hlast : window.readWord 0x14 page = .error .bounds page :=
    window.readWord_of_overrun page
      (by show window.base.toNat + 0x14 + 4 < 0x10000000000000000; omega) hover
  show (window.readByte 0 >>= _) page = _
  simp only [bind, EStateM.bind, hcontrol]
  apply window.readWord_bind_of_bounds page (by decide)
  intro service
  apply window.readWord_bind_of_bounds page (by decide)
  intro requestAddr
  apply window.readWord_bind_of_bounds page (by decide)
  intro requestLen
  apply window.readWord_bind_of_bounds page (by decide)
  intro responseAddr
  show (window.readWord 0x14 >>= _) page = _
  simp only [bind, EStateM.bind, hlast]

end

/-- A block with the control byte and the words of a request holds the request. -/
lemma requestAt_eq {request : Request} {page : Page} {base : Nat}
    (hcontrol : page.byteAt base = request.control)
    (hwords : page.slice (base + 4) 20 = request.words.flatMap Word.toBytes) :
    page.requestAt base = request := by
  have hword (i : Nat) (value : UInt32) (hi : i + 4 ≤ 20)
      (hvalue : ((request.words.flatMap Word.toBytes).drop i).take 4 = Word.toBytes value) :
      page.wordAt (base + 4 + i) = value := by
    rw [Page.wordAt, Page.slice_add _ _ hi, hwords, hvalue, Word.ofList_toBytes]
  show Request.mk _ (page.wordAt (base + 4 + 0)) (page.wordAt (base + 4 + 4))
    (page.wordAt (base + 4 + 8)) (page.wordAt (base + 4 + 12)) (page.wordAt (base + 4 + 16)) = _
  rw [hcontrol, hword 0 request.service (by decide) rfl,
    hword 4 request.requestAddr (by decide) rfl, hword 8 request.requestLen (by decide) rfl,
    hword 12 request.responseAddr (by decide) rfl, hword 16 request.responseSize (by decide) rfl]

/-- What was stored is the request in the block. -/
lemma requestAt_written (request : Request) (page : Page) {base : Nat} (hfit : base + 0x18 ≤ 4096) :
    ((page.patch (base + 4) (request.words.flatMap Word.toBytes)).patch base
      [request.control]).requestAt base = request := by
  have hwords : (page.patch (base + 4) (request.words.flatMap Word.toBytes)).slice (base + 4) 20 =
      request.words.flatMap Word.toBytes := page.slice_patch _ _ hfit
  apply requestAt_eq
  · exact Page.byteAt_patch _ base [request.control] (k := 0) Nat.one_pos
      (by show base + 0 < 4096; omega)
  · rw [Page.slice_patch_apart _ _ _ (.inr (by simp)), hwords]

/-- The words of the request in a block are a stretch of the page. -/
lemma words_requestAt (page : Page) (base : Nat) :
    (page.requestAt base).words.flatMap Word.toBytes = page.slice (base + 4) 20 := by
  rw [show 20 = 4 + (4 + (4 + (4 + 4))) from rfl, Page.slice_append, Page.slice_append,
    Page.slice_append, Page.slice_append]
  simp [Page.requestAt, words]

/-- Storing the request that is in the block already changes nothing. -/
lemma write_requestAt (window : Window) (page : Page) (hfit : window.base.toNat + 0x18 ≤ 4096) :
    (page.requestAt window.base.toNat).write window page = .ok () page := by
  have hcontrol : [page.byteAt window.base.toNat] = page.slice window.base.toNat 1 := by
    simp [Page.slice]
  rw [write_of_fits _ window page hfit, words_requestAt, Page.patch_slice, Page.requestAt, hcontrol,
    Page.patch_slice]

/-- Words of a request leave everything outside of their registers alone. -/
lemma byteAt_patch_words (request : Request) (page : Page) (base count : Nat) {i : Nat}
    (h : i < base + 4 ∨ base + 0x18 ≤ i) :
    (page.patch (base + 4) ((request.words.take count).flatMap Word.toBytes)).byteAt i =
      page.byteAt i := by
  have htake := List.length_take_le' count request.words
  have hwords : request.words.length = 5 := rfl
  apply Page.byteAt_patch_apart
  rw [Word.length_flatMap_toBytes]
  omega

section

variable (request : Request) (window : Window) (page : Page)

lemma write_ok_iff :
    (∃ after, request.write window page = .ok () after) ↔ window.base.toNat + 0x18 ≤ 4096 := by
  constructor
  · rintro ⟨after, hwrite⟩
    by_contra hfit
    obtain ⟨count, herror⟩ := request.write_of_overrun window page (Nat.not_le.mp hfit)
    rw [herror] at hwrite
    cases hwrite
  · exact fun hfit => ⟨_, request.write_of_fits window page hfit⟩

lemma read_ok_iff :
    (∃ found after, read window page = .ok found after) ↔ window.base.toNat + 0x18 ≤ 4096 := by
  constructor
  · rintro ⟨found, after, hread⟩
    by_contra hfit
    rw [read_of_overrun window page (Nat.not_le.mp hfit)] at hread
    cases hread
  · exact fun hfit => ⟨_, _, read_of_fits window page hfit⟩

variable {request window page}

lemma read_of_written {after : Page} (hwrite : request.write window page = .ok () after) :
    read window after = .ok request after := by
  have hfit := (request.write_ok_iff window page).mp ⟨after, hwrite⟩
  rw [request.write_of_fits window page hfit] at hwrite
  cases hwrite
  rw [read_of_fits window _ hfit, request.requestAt_written page hfit]

lemma write_of_read {found : Request} {after : Page}
    (hread : read window page = .ok found after) :
    after = page ∧ found.write window page = .ok () page := by
  have hfit := (read_ok_iff window page).mp ⟨found, after, hread⟩
  rw [read_of_fits window page hfit] at hread
  cases hread
  exact ⟨rfl, write_requestAt window page hfit⟩

variable (request window page)

/-- Control keeps its value until the request is stored. -/
lemma underway_control (count : Nat) :
    (request.underway count window page).byteAt window.base.toNat =
        page.byteAt window.base.toNat ∨
      6 ≤ count ∧ request.write window page = .ok () (request.underway count window page) := by
  rcases request.underway_cases window page count with ⟨stored, hstored⟩ | ⟨hall, -, hwrite⟩
  · left
    rw [hstored]
    exact request.byteAt_patch_words page _ stored (.inl (by omega))
  · exact .inr ⟨hall, hwrite⟩

/-- Bytes outside of the registers of a request keep their values. -/
lemma underway_apart (count : Nat) {i : Nat} (hcontrol : i ≠ window.base.toNat)
    (hwords : i < window.base.toNat + 4 ∨ window.base.toNat + 0x18 ≤ i) :
    (request.underway count window page).byteAt i = page.byteAt i := by
  rcases request.underway_cases window page count with ⟨stored, hstored⟩ | ⟨-, hfit, hwrite⟩
  · rw [hstored]
    exact request.byteAt_patch_words page _ stored hwords
  · rw [request.write_of_fits window page hfit] at hwrite
    injection hwrite with _ hafter
    rw [← hafter, Page.byteAt_patch_apart _ _ _ (by simp only [List.length_singleton]; omega)]
    exact request.byteAt_patch_words page _ 5 hwords

end

end Request

/-- With a window at any place of a page, a request can be stored and read exactly if its registers
lie inside of the page. What was stored is read back, and storing what was read changes nothing.
Whatever part of a request is stored, nothing is changed but its registers, and control has its old
value until all the others are stored; a request that does not fit does not touch it. So a request
in a block that was idle is complete at every point at which it is pending. -/
theorem request_complete_when_pending (page : Page) (base : UInt64) (hbase : base.toNat < 4096)
    (request : Request) :
    ∃ window, Window.ofBase base = .ok window ∧
      ((∃ after, request.write window page = .ok () after) ↔ base.toNat + 0x18 ≤ 4096) ∧
      ((∃ found after, Request.read window page = .ok found after) ↔ base.toNat + 0x18 ≤ 4096) ∧
      (∀ after, request.write window page = .ok () after →
        Request.read window after = .ok request after) ∧
      (∀ found after, Request.read window page = .ok found after →
        after = page ∧ found.write window page = .ok () page) ∧
      (∀ abort after, request.write window page = .error abort after →
        abort = .bounds ∧ after.get ⟨base.toNat, hbase⟩ = page.get ⟨base.toNat, hbase⟩) ∧
      request.issue 6 window = request.write window ∧
      ∀ count,
        (count < 6 → (request.underway count window page).get ⟨base.toNat, hbase⟩ =
          page.get ⟨base.toNat, hbase⟩) ∧
        (∀ i, (request.underway count window page).get i ≠ page.get i →
          i.val = base.toNat ∨ base.toNat + 0x04 ≤ i.val ∧ i.val < base.toNat + 0x18) ∧
        (page.get ⟨base.toNat, hbase⟩ = 0 →
          (request.underway count window page).get ⟨base.toNat, hbase⟩ ≠ 0 →
          Request.read window (request.underway count window page) =
            .ok request (request.underway count window page)) := by
  let window : Window := ⟨base, hbase⟩
  refine ⟨window, dif_pos hbase, request.write_ok_iff window page, Request.read_ok_iff window page,
    fun _ => Request.read_of_written, fun _ _ => Request.write_of_read,
    fun abort after hwrite => ?_, request.issue_of_ge window (Nat.le_refl 6), fun count => ?_⟩
  · by_cases hfit : base.toNat + 0x18 ≤ 4096
    · rw [request.write_of_fits window page hfit] at hwrite
      cases hwrite
    · obtain ⟨stored, herror⟩ := request.write_of_overrun window page (Nat.not_le.mp hfit)
      rw [herror] at hwrite
      cases hwrite
      refine ⟨rfl, ?_⟩
      rw [← Page.byteAt_of_lt _ hbase, ← Page.byteAt_of_lt _ hbase]
      exact request.byteAt_patch_words page _ stored (.inl (Nat.lt_add_of_pos_right (by decide)))
  · have hcontrol := request.underway_control window page count
    rw [Page.byteAt_of_lt _ hbase, Page.byteAt_of_lt _ hbase] at hcontrol
    refine ⟨fun hcount => ?_, fun i => ?_, fun hidle hpending => ?_⟩
    · exact hcontrol.resolve_right fun ⟨hall, _⟩ => by omega
    · contrapose!
      rintro ⟨hne, houtside⟩
      rw [← Page.byteAt_of_lt _ i.isLt, ← Page.byteAt_of_lt _ i.isLt]
      refine request.underway_apart window page count hne ?_
      by_cases hlow : base.toNat + 4 ≤ i.val
      · exact .inr (houtside hlow)
      · exact .inl (Nat.not_le.mp hlow)
    · rcases hcontrol with hold | ⟨_, hwrite⟩
      · exact absurd (hold.trans hidle) hpending
      · exact Request.read_of_written hwrite

/-- At the last place that has room for it, a request becomes pending with its last store. One byte
further it aborts, and the block stays idle. -/
theorem request_at_last_place_and_past_it :
    (∃ window after, Window.ofBase 4072 = .ok window ∧
      (⟨1, 58, 0x1000, 8, 0x2000, 64⟩ : Request).write window .zero = .ok () after ∧
      Request.read window after = .ok ⟨1, 58, 0x1000, 8, 0x2000, 64⟩ after ∧
      ((⟨1, 58, 0x1000, 8, 0x2000, 64⟩ : Request).underway 5 window .zero).get 4072 = 0) ∧
    ∃ window, Window.ofBase 4073 = .ok window ∧
      (¬ ∃ after, (⟨1, 58, 0x1000, 8, 0x2000, 64⟩ : Request).write window .zero = .ok () after) ∧
      (¬ ∃ found after, Request.read window .zero = .ok found after) ∧
      ∀ abort after, (⟨1, 58, 0x1000, 8, 0x2000, 64⟩ : Request).write window .zero =
        .error abort after → abort = .bounds ∧ after.get 4073 = 0 := by
  constructor
  · obtain ⟨window, hwindow, hwrite, -, hread, -, -, -, hunderway⟩ :=
      request_complete_when_pending .zero 4072 (by decide) ⟨1, 58, 0x1000, 8, 0x2000, 64⟩
    obtain ⟨after, hafter⟩ := hwrite.mpr (by decide)
    exact ⟨window, after, hwindow, hafter, hread after hafter,
      ((hunderway 5).1 (by decide)).trans (Page.get_zero _)⟩
  · obtain ⟨window, hwindow, hwrite, hread, -, -, habort, -⟩ :=
      request_complete_when_pending .zero 4073 (by decide) ⟨1, 58, 0x1000, 8, 0x2000, 64⟩
    refine ⟨window, hwindow, fun h => absurd (hwrite.mp h) (by decide),
      fun h => absurd (hread.mp h) (by decide), fun abort after h => ?_⟩
    obtain ⟨hbounds, hcontrol⟩ := habort abort after h
    exact ⟨hbounds, hcontrol.trans (Page.get_zero _)⟩

end HostCalls
