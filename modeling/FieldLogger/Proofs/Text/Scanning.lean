import FieldLogger.Proofs.Text.Decoding

/-! What a scan finds stands in the bytes that it read: their start encodes the text (`encodeChars_scan_isPrefix`).
    A first line therefore holds no end of line. -/

namespace FieldLogger
namespace Utf8

/-! ### Characters of several bytes -/

theorem val_ofNat {n : Nat} (h : n < 0xD800 ∨ 0xDFFF < n ∧ n < 0x110000) : (Char.ofNat n).val.toNat = n := by
  have hvalid : n.isValidChar := h
  unfold Char.ofNat
  rw [dif_pos hvalid]
  rfl

theorem eq_ofNat {b : UInt8} {n : Nat} (h : n = b.toNat) : UInt8.ofNat n = b := by
  rw [h, UInt8.ofNat_toNat]

theorem utf8EncodeChar_one {a : UInt8} (ha : a.toNat < 0x80) : String.utf8EncodeChar (Char.ofNat a.toNat) = [a] := by
  have hval := val_ofNat (n := a.toNat) (by omega)
  unfold String.utf8EncodeChar
  dsimp only
  rw [hval, if_pos (by omega), UInt8.ofNat_toNat]

theorem utf8EncodeChar_two {a b : UInt8} (ha : 0xC2 ≤ a.toNat) (ha' : a.toNat < 0xE0) (hb : 0x80 ≤ b.toNat)
    (hb' : b.toNat ≤ 0xBF) :
    String.utf8EncodeChar (Char.ofNat ((a.toNat - 0xC0) * 64 + (b.toNat - 0x80))) = [a, b] := by
  have hval := val_ofNat (n := (a.toNat - 0xC0) * 64 + (b.toNat - 0x80)) (by omega)
  unfold String.utf8EncodeChar
  dsimp only
  rw [hval, if_neg (by omega), if_pos (by omega), eq_ofNat (b := a) (by omega), eq_ofNat (b := b) (by omega)]

/-- The bounds on the second byte leave out what two bytes can write, and the surrogates. -/
theorem utf8EncodeChar_three {a b c : UInt8} (ha : 0xE0 ≤ a.toNat) (ha' : a.toNat < 0xF0) (hb : 0x80 ≤ b.toNat)
    (hb' : b.toNat ≤ 0xBF) (hlong : a.toNat = 0xE0 → 0xA0 ≤ b.toNat) (hsurrogate : a.toNat = 0xED → b.toNat ≤ 0x9F)
    (hc : 0x80 ≤ c.toNat) (hc' : c.toNat ≤ 0xBF) :
    String.utf8EncodeChar
        (Char.ofNat (((a.toNat - 0xE0) * 64 + (b.toNat - 0x80)) * 64 + (c.toNat - 0x80))) = [a, b, c] := by
  have hval := val_ofNat (n := ((a.toNat - 0xE0) * 64 + (b.toNat - 0x80)) * 64 + (c.toNat - 0x80)) (by omega)
  unfold String.utf8EncodeChar
  dsimp only
  rw [hval, if_neg (by omega), if_neg (by omega), if_pos (by omega), eq_ofNat (b := a) (by omega),
    eq_ofNat (b := b) (by omega), eq_ofNat (b := c) (by omega)]

/-- The bounds on the second byte leave out what three bytes can write, and what lies beyond the last code point. -/
theorem utf8EncodeChar_four {a b c d : UInt8} (ha : 0xF0 ≤ a.toNat) (ha' : a.toNat ≤ 0xF4) (hb : 0x80 ≤ b.toNat)
    (hb' : b.toNat ≤ 0xBF) (hlong : a.toNat = 0xF0 → 0x90 ≤ b.toNat) (hlast : a.toNat = 0xF4 → b.toNat ≤ 0x8F)
    (hc : 0x80 ≤ c.toNat) (hc' : c.toNat ≤ 0xBF) (hd : 0x80 ≤ d.toNat) (hd' : d.toNat ≤ 0xBF) :
    String.utf8EncodeChar (Char.ofNat ((((a.toNat - 0xF0) * 64 + (b.toNat - 0x80)) * 64 + (c.toNat - 0x80)) * 64 +
      (d.toNat - 0x80))) = [a, b, c, d] := by
  have hval := val_ofNat
    (n := (((a.toNat - 0xF0) * 64 + (b.toNat - 0x80)) * 64 + (c.toNat - 0x80)) * 64 + (d.toNat - 0x80)) (by omega)
  unfold String.utf8EncodeChar
  dsimp only
  rw [hval, if_neg (by omega), if_neg (by omega), if_neg (by omega), eq_ofNat (b := a) (by omega),
    eq_ofNat (b := b) (by omega), eq_ofNat (b := c) (by omega), eq_ofNat (b := d) (by omega)]

/-! ### Inside a character -/

/-- However the character that begins with the bytes `read` is finished, its bytes are its encoding. -/
def Spells (read : Bytes) (bits : Nat) (low high : UInt8) : Nat → Prop
  | 0 => ∀ b, low ≤ b → b ≤ high →
      String.utf8EncodeChar (Char.ofNat (bits * 64 + (b.toNat - 0x80))) = read ++ [b]
  | after + 1 => ∀ b, low ≤ b → b ≤ high → Spells (read ++ [b]) (bits * 64 + (b.toNat - 0x80)) 0x80 0xBF after

/-- A byte that opens a character is spelled on by the bytes that its bounds allow. -/
theorem spells_of_lead {a : UInt8} {u : Unfinished} (h : lead a = .opens u) :
    Spells [a] u.bits u.low u.high u.after := by
  have hle : ∀ {x y : UInt8}, x ≤ y → x.toNat ≤ y.toNat := fun hxy => UInt8.le_iff_toNat_le.mp hxy
  unfold lead at h
  dsimp only at h
  split at h
  · cases h
  split at h
  · cases h
  split at h
  · obtain rfl := Lead.opens.inj h
    intro b hb hb'
    exact utf8EncodeChar_two (by omega) (by omega) (hle hb) (hle hb')
  split at h
  · obtain rfl := Lead.opens.inj h
    intro b hb hb' c hc hc'
    have hlow : 0xA0 ≤ b.toNat := hle hb
    exact utf8EncodeChar_three (by omega) (by omega) (by omega) (hle hb') (fun _ => hlow) (by omega) (hle hc) (hle hc')
  split at h
  · obtain rfl := Lead.opens.inj h
    intro b hb hb' c hc hc'
    have hhigh : b.toNat ≤ 0x9F := hle hb'
    exact utf8EncodeChar_three (by omega) (by omega) (hle hb) (by omega) (by omega) (fun _ => hhigh) (hle hc) (hle hc')
  split at h
  · obtain rfl := Lead.opens.inj h
    intro b hb hb' c hc hc'
    exact utf8EncodeChar_three (by omega) (by omega) (hle hb) (hle hb') (by omega) (by omega) (hle hc) (hle hc')
  split at h
  · obtain rfl := Lead.opens.inj h
    intro b hb hb' c hc hc' d hd hd'
    have hlow : 0x90 ≤ b.toNat := hle hb
    exact utf8EncodeChar_four (by omega) (by omega) (by omega) (hle hb') (fun _ => hlow) (by omega) (hle hc) (hle hc')
      (hle hd) (hle hd')
  split at h
  · obtain rfl := Lead.opens.inj h
    intro b hb hb' c hc hc' d hd hd'
    exact utf8EncodeChar_four (by omega) (by omega) (hle hb) (hle hb') (by omega) (by omega) (hle hc) (hle hc')
      (hle hd) (hle hd')
  split at h
  · obtain rfl := Lead.opens.inj h
    intro b hb hb' c hc hc' d hd hd'
    have hhigh : b.toNat ≤ 0x8F := hle hb'
    exact utf8EncodeChar_four (by omega) (by omega) (hle hb) (by omega) (by omega) (fun _ => hhigh) (hle hc) (hle hc')
      (hle hd) (hle hd')
  · cases h

theorem utf8EncodeChar_of_lead {a : UInt8} {c : Char} (h : lead a = .whole c) : String.utf8EncodeChar c = [a] := by
  unfold lead at h
  dsimp only at h
  split at h
  · obtain rfl := Lead.whole.inj h
    exact utf8EncodeChar_one (by omega)
  · repeat' split at h
    all_goals cases h

theorem Spells.whole {read : Bytes} {u : Unfinished} {b : UInt8} {c : Char}
    (h : Spells read u.bits u.low u.high u.after) (hnext : u.next b = .whole c) :
    String.utf8EncodeChar c = read ++ [b] := by
  obtain ⟨bits, low, high, after⟩ := u
  unfold Unfinished.next at hnext
  split at hnext
  · rename_i hin
    cases after with
    | zero =>
      obtain rfl := Lead.whole.inj hnext
      exact h b hin.1 hin.2
    | succ after => cases hnext
  · cases hnext

theorem Spells.opens {read : Bytes} {u u' : Unfinished} {b : UInt8} (h : Spells read u.bits u.low u.high u.after)
    (hnext : u.next b = .opens u') : Spells (read ++ [b]) u'.bits u'.low u'.high u'.after := by
  obtain ⟨bits, low, high, after⟩ := u
  unfold Unfinished.next at hnext
  split at hnext
  · rename_i hin
    cases after with
    | zero => cases hnext
    | succ after =>
      obtain rfl := Lead.opens.inj hnext
      exact h b hin.1 hin.2
  · cases hnext

theorem low_le_high_of_lead {a : UInt8} {u : Unfinished} (h : lead a = .opens u) : u.low ≤ u.high := by
  unfold lead at h
  dsimp only at h
  repeat' split at h
  all_goals simp only [reduceCtorEq, Lead.opens.injEq] at h
  all_goals
    subst h
    dsimp only
    decide

theorem low_le_high_of_next {u u' : Unfinished} {b : UInt8} (h : u.next b = .opens u') : u'.low ≤ u'.high := by
  unfold Unfinished.next at h
  dsimp only at h
  repeat' split at h
  all_goals simp only [reduceCtorEq, Lead.opens.injEq] at h
  all_goals
    subst h
    dsimp only
    decide

theorem Spells.exists_char {read : Bytes} {bits after : Nat} {low high : UInt8} (h : Spells read bits low high after)
    (hle : low ≤ high) : ∃ c rest, rest ≠ [] ∧ String.utf8EncodeChar c = read ++ rest := by
  induction after generalizing read bits low high with
  | zero => exact ⟨_, [low], List.cons_ne_nil low [], h low (UInt8.le_refl low) hle⟩
  | succ after ih =>
    obtain ⟨c, rest, -, hc⟩ := ih (h low (UInt8.le_refl low) hle) (by decide)
    refine ⟨c, low :: rest, List.cons_ne_nil low rest, ?_⟩
    rw [hc, List.append_assoc]
    rfl

/-! ### Whole texts -/

/-- The bytes read since the last whole character, where a scan stands: none between characters. -/
def Stands (read : Bytes) : Option Unfinished → Prop
  | none => read = []
  | some u => Spells read u.bits u.low u.high u.after

/-- The bytes behind the text that was read, by how the run ended: none, or the beginning of a character. -/
def Ending.Leaves : Ending → Bytes → Prop
  | .whole, tail => tail = []
  | .cut, tail => ∃ c rest, rest ≠ [] ∧ String.utf8EncodeChar c = tail ++ rest
  | .invalid, _ => True

theorem scanFrom_leaves (bs read : Bytes) (open? : Option Unfinished) (h : Stands read open?)
    (hopen : ∀ u, open? = some u → u.low ≤ u.high) :
    ∃ tail, read ++ bs = encodeChars (scanFrom open? bs).text ++ tail ∧ (scanFrom open? bs).ending.Leaves tail := by
  induction bs generalizing read open? with
  | nil =>
    cases open? with
    | none =>
      obtain rfl := h
      exact ⟨[], rfl, rfl⟩
    | some u => exact ⟨read, List.append_nil read, Spells.exists_char h (hopen u rfl)⟩
  | cons b bs ih =>
    have whole : ∀ {c : Char}, String.utf8EncodeChar c = read ++ [b] →
        ∃ tail, read ++ b :: bs = encodeChars (c :: (scanFrom none bs).text) ++ tail ∧
          (scanFrom none bs).ending.Leaves tail := by
      intro c hc
      obtain ⟨tail, heq, hleaves⟩ := ih [] none rfl fun _ hu => nomatch hu
      refine ⟨tail, ?_, hleaves⟩
      rw [encodeChars, List.flatMap_cons, hc, List.append_assoc, List.append_assoc, ← encodeChars, ← heq]
      rfl
    have opens : ∀ {u : Unfinished}, Spells (read ++ [b]) u.bits u.low u.high u.after → u.low ≤ u.high →
        ∃ tail, read ++ b :: bs = encodeChars (scanFrom (some u) bs).text ++ tail ∧
          (scanFrom (some u) bs).ending.Leaves tail := by
      intro u hu hle
      have hrest := ih (read ++ [b]) (some u) hu fun _ heq => Option.some.inj heq ▸ hle
      rwa [List.append_assoc] at hrest
    have refused : ∃ tail, read ++ b :: bs = encodeChars [] ++ tail ∧ Ending.invalid.Leaves tail :=
      ⟨read ++ b :: bs, rfl, trivial⟩
    unfold scanFrom
    cases open? with
    | none =>
      obtain rfl := h
      dsimp only
      split
      · rename_i c hlead
        exact whole (utf8EncodeChar_of_lead hlead)
      · rename_i u hlead
        exact opens (spells_of_lead hlead) (low_le_high_of_lead hlead)
      · exact refused
    | some u =>
      dsimp only
      split
      · rename_i c hnext
        exact whole (Spells.whole h hnext)
      · rename_i u' hnext
        exact opens (Spells.opens h hnext) (low_le_high_of_next hnext)
      · exact refused

theorem scan_leaves (bs : Bytes) : ∃ tail, bs = encodeChars (scan bs).text ++ tail ∧ (scan bs).ending.Leaves tail :=
  scanFrom_leaves bs [] none rfl fun _ hu => nomatch hu

theorem encodeChars_scan_isPrefix (bs : Bytes) : encodeChars (scan bs).text <+: bs := by
  obtain ⟨tail, heq, -⟩ := scan_leaves bs
  exact ⟨tail, heq.symm⟩

theorem mem_of_mem_scan {bs : Bytes} {c : Char} {b : UInt8} (hc : c ∈ (scan bs).text)
    (hb : b ∈ String.utf8EncodeChar c) : b ∈ bs :=
  (encodeChars_scan_isPrefix bs).subset (List.mem_flatMap.mpr ⟨c, hc, hb⟩)

end Utf8

theorem not_endsLine_of_firstLine {raw : Bytes} {line : String} (h : firstLine raw = .ok line) :
    ∀ c ∈ line.toList, ¬Utf8.EndsLine c := by
  unfold firstLine at h
  dsimp only at h
  split at h
  · cases h
  · obtain rfl := Except.ok.inj h
    intro c hc hends
    rw [String.toList_ofList] at hc
    have hkept : ∀ b ∈ raw.takeWhile (fun b => b != 10 && b != 0), (b != 10 && b != 0) = true :=
      List.all_eq_true.mp List.all_takeWhile
    rcases hends with rfl | rfl
    · exact absurd (hkept 10 (Utf8.mem_of_mem_scan hc (by decide))) (by decide)
    · exact absurd (hkept 0 (Utf8.mem_of_mem_scan hc (by decide))) (by decide)

end FieldLogger
