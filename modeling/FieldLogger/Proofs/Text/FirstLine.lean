import Mathlib.Control.Monad.Basic
import Mathlib.Data.List.TakeWhile
import FieldLogger.Proofs.Text.Scanning
import FieldLogger.Proofs.Text.Sizes

/-! Which bytes have a first line, and which it is (`firstLine_exact`). The bytes before the first newline or NUL are
    read if further bytes could make a text of them; a character that is cut at their end is left out, and no other
    byte of theirs. -/

namespace FieldLogger
namespace Utf8

/-! ### Bytes that begin a text -/

/-- Some text begins with the bytes; they may end inside one of its characters. -/
def BeginsText (bs : Bytes) : Prop := ∃ text : String, bs <+: encode text

/-- The text is the longest that the bytes begin with. -/
structure LongestText (bs : Bytes) (text : String) : Prop where
  isPrefix : encode text <+: bs
  longest : ∀ t : String, encode t <+: bs → encode t <+: encode text

/-- A byte that is in no text stays so, whatever follows. -/
theorem ending_scanFrom_append {open? : Option Unfinished} {bs : Bytes} (h : (scanFrom open? bs).ending = .invalid)
    (more : Bytes) : (scanFrom open? (bs ++ more)).ending = .invalid := by
  induction bs generalizing open? with
  | nil => cases open? <;> cases h
  | cons b bs ih =>
    rw [List.cons_append]
    unfold scanFrom at h ⊢
    cases open? with
    | none =>
      dsimp only at h ⊢
      split at h
      · exact ih h
      · exact ih h
      · rfl
    | some u =>
      dsimp only at h ⊢
      split at h
      · exact ih h
      · exact ih h
      · rfl

theorem scan_encode_append (text : String) (rest : Bytes) :
    scan (encode text ++ rest) = ⟨text.toList ++ (scan rest).text, (scan rest).ending⟩ :=
  scan_encodeChars_append text.toList rest

theorem beginsText_iff {bs : Bytes} : BeginsText bs ↔ (scan bs).ending ≠ .invalid := by
  constructor
  · rintro ⟨text, more, hmore⟩ hinvalid
    have hwhole := scan_encode_append text []
    rw [List.append_nil, ← hmore] at hwhole
    have hstays := ending_scanFrom_append hinvalid more
    rw [← scan, hwhole] at hstays
    cases hstays
  · intro hvalid
    obtain ⟨tail, heq, hleaves⟩ := scan_leaves bs
    cases hending : (scan bs).ending with
    | whole =>
      rw [hending] at hleaves
      obtain rfl := hleaves
      refine ⟨String.ofList (scan bs).text, [], ?_⟩
      rw [encode, String.toList_ofList, List.append_nil]
      rwa [List.append_nil] at heq
    | cut =>
      rw [hending] at hleaves
      obtain ⟨c, rest, -, hc⟩ := hleaves
      refine ⟨String.ofList ((scan bs).text ++ [c]), rest, ?_⟩
      have hlast : encodeChars [c] = String.utf8EncodeChar c := List.append_nil _
      rw [encode, String.toList_ofList, encodeChars_append, hlast, hc, ← List.append_assoc, ← heq]
    | invalid => exact absurd hending hvalid

theorem longestText_scan (bs : Bytes) : LongestText bs (String.ofList (scan bs).text) := by
  have hbytes : encode (String.ofList (scan bs).text) = encodeChars (scan bs).text := by
    rw [encode, String.toList_ofList]
  refine ⟨?_, fun t ht => ?_⟩ <;> rw [hbytes]
  · exact encodeChars_scan_isPrefix bs
  · obtain ⟨rest, rfl⟩ := ht
    rw [scan_encode_append, encodeChars_append]
    exact List.prefix_append _ _

theorem encode_isPrefix_iff {s t : String} : encode s <+: encode t ↔ s.toList <+: t.toList := by
  constructor
  · rintro ⟨rest, hrest⟩
    have hscan := scan_encode_append t []
    rw [List.append_nil, ← hrest, scan_encode_append, Scan.mk.injEq] at hscan
    exact ⟨(scan rest).text, hscan.1.trans (List.append_nil _)⟩
  · rintro ⟨rest, hrest⟩
    rw [encode, encode, ← hrest, encodeChars_append]
    exact List.prefix_append _ _

theorem LongestText.unique {bs : Bytes} {s t : String} (hs : LongestText bs s) (ht : LongestText bs t) : s = t := by
  have hst := encode_isPrefix_iff.mp (ht.longest s hs.isPrefix)
  have hts := encode_isPrefix_iff.mp (hs.longest t ht.isPrefix)
  exact String.toList_inj.mp (hst.eq_of_length_le hts.length_le)

/-- Only the bytes of one unfinished character are left out, and these are at most three. -/
theorem LongestText.dropped {bs : Bytes} {text : String} (h : LongestText bs text) (hbegins : BeginsText bs) :
    ∃ tail, bs = encode text ++ tail ∧ tail.length ≤ 3 := by
  obtain rfl := h.unique (longestText_scan bs)
  obtain ⟨tail, heq, hleaves⟩ := scan_leaves bs
  refine ⟨tail, by rwa [encode, String.toList_ofList], ?_⟩
  cases hending : (scan bs).ending with
  | whole =>
    rw [hending] at hleaves
    obtain rfl := hleaves
    exact Nat.zero_le 3
  | cut =>
    rw [hending] at hleaves
    obtain ⟨c, rest, hrest, hc⟩ := hleaves
    have hlength := congrArg List.length hc
    rw [String.length_utf8EncodeChar, List.length_append] at hlength
    have hfour := c.utf8Size_le_four
    have hpos := List.length_pos_iff.mpr hrest
    omega
  | invalid => exact absurd hending (beginsText_iff.mp hbegins)

theorem longestText_take_iff {text line : String} {limit : Nat} :
    LongestText ((encode text).take limit) line ↔ Fitting limit text.toList line.toList := by
  have hcut : ∀ s : String, encode s <+: (encode text).take limit ↔ s.toList <+: text.toList ∧ size s.toList ≤ limit := by
    intro s
    rw [List.prefix_take_iff, encode_isPrefix_iff, encode, length_encodeChars]
  constructor
  · rintro ⟨hstart, hlongest⟩
    obtain ⟨hline, hsize⟩ := (hcut line).mp hstart
    refine ⟨hline, hsize, fun p hp hfits => ?_⟩
    have hbytes := hlongest (String.ofList p) ((hcut _).mpr (by rw [String.toList_ofList]; exact ⟨hp, hfits⟩))
    rwa [encode_isPrefix_iff, String.toList_ofList] at hbytes
  · rintro ⟨hline, hsize, hlongest⟩
    refine ⟨(hcut line).mpr ⟨hline, hsize⟩, fun t ht => ?_⟩
    obtain ⟨hstart, hfits⟩ := (hcut t).mp ht
    exact encode_isPrefix_iff.mpr (hlongest _ hstart hfits)

end Utf8

/-! ### First lines -/

theorem firstLine_eq_ok_iff {raw : Bytes} {line : String} :
    firstLine raw = .ok line ↔
      let l := raw.takeWhile fun b => b != 10 && b != 0
      Utf8.BeginsText l ∧ Utf8.LongestText l line := by
  unfold firstLine
  dsimp only
  rw [Utf8.beginsText_iff]
  split
  · rename_i hinvalid
    exact iff_of_false (fun h => nomatch h) fun h => h.1 hinvalid
  · rename_i hvalid
    have hlongest := Utf8.longestText_scan (raw.takeWhile fun b => b != 10 && b != 0)
    rw [Except.ok.injEq]
    exact ⟨fun h => ⟨hvalid, h ▸ hlongest⟩, fun h => hlongest.unique h.2⟩

theorem firstLine_eq_error_iff {raw : Bytes} :
    firstLine raw = .error .encoding ↔ ¬Utf8.BeginsText (raw.takeWhile fun b => b != 10 && b != 0) := by
  unfold firstLine
  dsimp only
  rw [Utf8.beginsText_iff]
  split
  · rename_i hinvalid
    exact iff_of_true rfl (not_not_intro hinvalid)
  · rename_i hvalid
    exact iff_of_false (fun h => nomatch h) (not_not_intro hvalid)

theorem firstLine_append_cons (bs : Bytes) {b : UInt8} (hb : b = 10 ∨ b = 0) (rest : Bytes) :
    firstLine (bs ++ b :: rest) = firstLine bs := by
  have hend : (b != 10 && b != 0) = false := by
    rcases hb with rfl | rfl <;> decide
  unfold firstLine
  rw [Text.takeWhile_append_cons (p := fun b => b != 10 && b != 0) hend]

theorem takeWhile_take_encode {text : String} (h : ∀ c ∈ text.toList, ¬Utf8.EndsLine c) (limit : Nat) :
    ((Utf8.encode text).take limit).takeWhile (fun b => b != 10 && b != 0) = (Utf8.encode text).take limit := by
  rw [List.takeWhile_eq_self_iff]
  intro b hb
  exact Utf8.of_mem_encodeChars h (List.mem_of_mem_take hb)

/-- Bytes have a first line if those before the first newline or NUL begin some text, and it is the longest text that
    these begin with; it leaves out at most three of them. What follows the newline or NUL has no part in it, and of a
    text that is cut at any byte, whole characters are left. -/
theorem firstLine_exact (raw : Bytes) :
    let l := raw.takeWhile fun b => b != 10 && b != 0
    (∀ line, firstLine raw = .ok line ↔ Utf8.BeginsText l ∧ Utf8.LongestText l line) ∧
      (Utf8.BeginsText l → ∃ line tail, firstLine raw = .ok line ∧ l = Utf8.encode line ++ tail ∧ tail.length ≤ 3) ∧
      (¬Utf8.BeginsText l → firstLine raw = .error .encoding) ∧
      (∀ b rest, b = 10 ∨ b = 0 → firstLine (raw ++ b :: rest) = firstLine raw) ∧
      ∀ text : String, (∀ c ∈ text.toList, ¬Utf8.EndsLine c) → ∀ limit, ∃ line,
        firstLine ((Utf8.encode text).take limit) = .ok line ∧ Utf8.Fitting limit text.toList line.toList := by
  intro l
  refine ⟨fun line => firstLine_eq_ok_iff, fun hbegins => ?_, firstLine_eq_error_iff.mpr,
    fun b rest hb => firstLine_append_cons raw hb rest, fun text htext limit => ?_⟩
  · have hlongest := Utf8.longestText_scan l
    obtain ⟨tail, heq, htail⟩ := hlongest.dropped hbegins
    exact ⟨_, tail, firstLine_eq_ok_iff.mpr ⟨hbegins, hlongest⟩, heq, htail⟩
  · have hline := takeWhile_take_encode htext limit
    have hfitting := Utf8.fitting_takeBytes limit text.toList
    refine ⟨String.ofList (Utf8.takeBytes limit text.toList), firstLine_eq_ok_iff.mpr ?_, ?_⟩
    · dsimp only
      rw [hline]
      refine ⟨⟨text, List.take_prefix _ _⟩, Utf8.longestText_take_iff.mpr ?_⟩
      rwa [String.toList_ofList]
    · rwa [String.toList_ofList]

/-- Three bytes that begin a character of four are left out; a byte that no text has at its place is refused. -/
example : firstLine [0x61, 0xF0, 0x9F, 0x98] = .ok "a" ∧ firstLine [0x61, 0xE0, 0x80] = .error .encoding := by
  decide +kernel

end FieldLogger
