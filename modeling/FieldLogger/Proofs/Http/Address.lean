import FieldLogger.Http.Address
import FieldLogger.Proofs.Text.Numerals

/-! Which addresses are read (`parse_exact`). An address is `http://`, an authority up to the first slash, and a rest
    that is empty or starts with that slash; the last colon of the authority, if it has one, parts the host from the
    port. Just the texts of that form are read, so an address that is written out with its port is read as itself, also
    when its host has colons of its own. -/

namespace FieldLogger.Http

/-! ### The last separator -/

theorem splitLast?_eq_none_iff {sep : Char} {cs : List Char} : splitLast? sep cs = none ↔ sep ∉ cs := by
  induction cs with
  | nil => exact iff_of_true rfl List.not_mem_nil
  | cons c cs ih =>
    rw [splitLast?, List.mem_cons, not_or, ← ih]
    cases splitLast? sep cs with
    | some parts => exact iff_of_false nofun fun h => nomatch h.2
    | none =>
      by_cases hc : c = sep
      · rw [if_pos hc]
        exact iff_of_false nofun fun h => h.1 hc.symm
      · rw [if_neg hc]
        exact iff_of_true rfl ⟨Ne.symm hc, rfl⟩

theorem splitLast?_append_cons {sep : Char} {after : List Char} (h : sep ∉ after) (before : List Char) :
    splitLast? sep (before ++ sep :: after) = some (before, after) := by
  induction before with
  | nil =>
    rw [List.nil_append, splitLast?, splitLast?_eq_none_iff.mpr h]
    exact if_pos rfl
  | cons c before ih => rw [List.cons_append, splitLast?, ih]

theorem splitLast?_eq_some_iff {sep : Char} {cs before after : List Char} :
    splitLast? sep cs = some (before, after) ↔ cs = before ++ sep :: after ∧ sep ∉ after := by
  constructor
  · intro h
    induction cs generalizing before with
    | nil => cases h
    | cons c cs ih =>
      rw [splitLast?] at h
      split at h
      · rename_i hlater
        cases h
        obtain ⟨rfl, hafter⟩ := ih hlater
        exact ⟨rfl, hafter⟩
      · rename_i hnone
        split at h
        · rename_i hc
          cases h
          exact ⟨by rw [hc, List.nil_append], splitLast?_eq_none_iff.mp hnone⟩
        · cases h
  · rintro ⟨rfl, h⟩
    exact splitLast?_append_cons h before

namespace Address

/-! ### The grammar -/

/-- An authority, its host and its port. -/
inductive Authority : List Char → List Char → UInt16 → Prop
  | bare {host : List Char} (h : ':' ∉ host) : Authority host host 80
  | withPort {host digits : List Char} {port : UInt16} (h : ':' ∉ digits)
      (hport : Text.Writes UInt16.size digits port.toNat) : Authority (host ++ ':' :: digits) host port

/-- An authority and what follows it spell an address. -/
structure Spells (authority rest : List Char) (a : Address) : Prop where
  apart : '/' ∉ authority
  parted : Authority authority a.host.toList a.port
  named : a.host ≠ ""
  path : rest = [] ∧ a.path = "/" ∨ rest.head? = some '/' ∧ a.path.toList = rest

/-! ### Reading -/

theorem authority?_eq_some_iff {cs host : List Char} {port : UInt16} :
    authority? cs = some (host, port) ↔ Authority cs host port := by
  unfold authority?
  constructor
  · intro h
    split at h
    · rename_i hnone
      cases h
      exact .bare (splitLast?_eq_none_iff.mp hnone)
    · rename_i hsome
      obtain ⟨rfl, hafter⟩ := splitLast?_eq_some_iff.mp hsome
      obtain ⟨p, hp, hpair⟩ := Option.map_eq_some_iff.mp h
      cases hpair
      have hwrites := Text.unsigned?_eq_some_iff.mp hp
      refine .withPort hafter ?_
      rwa [UInt16.toNat_ofNat_of_lt' hwrites.1]
  · intro h
    cases h with
    | bare h =>
      rw [splitLast?_eq_none_iff.mpr h]
      rfl
    | withPort h hport =>
      rw [splitLast?_append_cons h]
      dsimp only
      rw [Text.unsigned?_eq_some_iff.mpr hport, Option.map_some, UInt16.ofNat_toNat]

/-- What stands before the first slash, and the rest from it on. -/
theorem slash_iff {cs authority rest : List Char} :
    cs.takeWhile (· != '/') = authority ∧ cs.drop authority.length = rest ↔
      cs = authority ++ rest ∧ '/' ∉ authority ∧ (rest = [] ∨ rest.head? = some '/') := by
  have hdrop : cs.drop (cs.takeWhile (· != '/')).length = cs.dropWhile (· != '/') := by
    have hparts := congrArg (List.drop (cs.takeWhile (· != '/')).length)
      (List.takeWhile_append_dropWhile (p := (· != '/')) (l := cs)).symm
    rwa [List.drop_left] at hparts
  constructor
  · rintro ⟨rfl, rfl⟩
    rw [hdrop]
    refine ⟨List.takeWhile_append_dropWhile.symm, fun h => ?_, ?_⟩
    · exact absurd (List.mem_takeWhile_imp h) (by decide)
    · cases hrest : cs.dropWhile (· != '/') with
      | nil => exact Or.inl rfl
      | cons c rest =>
        have hc : (c != '/') = false := Text.head?_dropWhile (p := (· != '/')) (congrArg List.head? hrest)
        exact Or.inr (congrArg some (bne_eq_false_iff_eq.mp hc))
  · rintro ⟨rfl, hapart, hrest⟩
    have hauthority : ∀ c ∈ authority, (c != '/') = true := fun c hc =>
      bne_iff_ne.mpr fun h => hapart (h ▸ hc)
    have htake : (authority ++ rest).takeWhile (· != '/') = authority := by
      rw [List.takeWhile_append_of_pos hauthority]
      cases rest with
      | nil => rw [List.takeWhile_nil, List.append_nil]
      | cons c rest =>
        obtain rfl : c = '/' := by simpa using hrest
        rw [List.takeWhile_cons_of_neg (by decide), List.append_nil]
    exact ⟨htake, List.drop_left⟩

theorem path_iff {rest : List Char} {path : String} (h : rest = [] ∨ rest.head? = some '/') :
    (if rest.isEmpty then "/" else String.ofList rest) = path ↔
      rest = [] ∧ path = "/" ∨ rest.head? = some '/' ∧ path.toList = rest := by
  cases rest with
  | nil => exact ⟨fun hpath => Or.inl ⟨rfl, hpath.symm⟩, fun hpath => hpath.elim (·.2.symm) nofun⟩
  | cons c rest =>
    have hslash : (c :: rest).head? = some '/' := h.resolve_left (List.cons_ne_nil _ _)
    rw [if_neg (by simp)]
    constructor
    · rintro rfl
      exact Or.inr ⟨hslash, String.toList_ofList⟩
    · rintro (⟨hnil, -⟩ | ⟨-, hpath⟩)
      · cases hnil
      · rw [← hpath, String.ofList_toList]

theorem afterScheme?_eq_some_iff {cs : List Char} {a : Address} :
    afterScheme? cs = some a ↔ ∃ authority rest, cs = authority ++ rest ∧ Spells authority rest a := by
  unfold afterScheme?
  dsimp only
  constructor
  · intro h
    obtain ⟨hcs, hapart, hrest⟩ := slash_iff.mp ⟨rfl, rfl⟩
    split at h
    · cases h
    · rename_i host port hauthority
      split at h
      · cases h
      · rename_i hnamed
        cases h
        refine ⟨_, _, hcs, hapart, ?_, ?_, (path_iff hrest).mp rfl⟩
        · rw [String.toList_ofList]
          exact authority?_eq_some_iff.mp hauthority
        · exact fun hempty => hnamed (List.isEmpty_iff.mpr (String.ofList_eq_empty_iff.mp hempty))
  · rintro ⟨authority, rest, hcs, hapart, hparted, hnamed, hpath⟩
    have hrest : rest = [] ∨ rest.head? = some '/' := hpath.imp And.left And.left
    have hhost : ¬a.host.toList.isEmpty = true := fun hempty =>
      hnamed (String.toList_eq_nil_iff.mp (List.isEmpty_iff.mp hempty))
    obtain ⟨htake, hdrop⟩ := slash_iff.mpr ⟨hcs, hapart, hrest⟩
    rw [htake, hdrop, authority?_eq_some_iff.mpr hparted]
    dsimp only
    rw [if_neg hhost, (path_iff hrest).mpr hpath, String.ofList_toList]

/-! ### Whole addresses -/

theorem parse_eq_ok_iff {url : String} {a : Address} :
    parse url = .ok a ↔
      ∃ authority rest, url.toList = "http://".toList ++ authority ++ rest ∧ Spells authority rest a := by
  have hscheme : "http://".toList = Config.scheme := by decide
  have hfound : parse url = .ok a ↔
      (if Config.scheme.isPrefixOf url.toList then afterScheme? (url.toList.drop Config.scheme.length) else none) =
        some a := by
    unfold parse
    dsimp only
    split
    · rename_i a' ha
      rw [ha, Except.ok.injEq, Option.some.injEq]
    · rename_i hnone
      rw [hnone]
      exact iff_of_false nofun nofun
  rw [hfound, hscheme]
  constructor
  · intro h
    split at h
    · rename_i hprefix
      obtain ⟨after, hurl⟩ := List.isPrefixOf_iff_prefix.mp hprefix
      rw [← hurl, List.drop_left] at h
      obtain ⟨authority, rest, rfl, hspells⟩ := afterScheme?_eq_some_iff.mp h
      exact ⟨authority, rest, by rw [← hurl, List.append_assoc], hspells⟩
    · cases h
  · rintro ⟨authority, rest, hurl, hspells⟩
    rw [List.append_assoc] at hurl
    rw [hurl, if_pos (List.isPrefixOf_iff_prefix.mpr (List.prefix_append _ _)), List.drop_left]
    exact afterScheme?_eq_some_iff.mpr ⟨authority, rest, rfl, hspells⟩

theorem parse_ok_or_invalid (url : String) : (∃ a, parse url = .ok a) ∨ parse url = .error (.invalidUrl url) := by
  unfold parse
  dsimp only
  split
  · rename_i a _
    exact Or.inl ⟨a, rfl⟩
  · exact Or.inr rfl

theorem writes_numeral (port : UInt16) : Text.Writes UInt16.size (Text.numeral port.toNat) port.toNat :=
  Text.unsigned?_eq_some_iff.mp (Text.unsigned?_numeral port.toNat_lt)

/-- An address is read from a text just if the text is `http://`, an authority without a slash, and a rest that is
    empty, for the path `/`, or else starts with a slash and is the path; and the authority is the host alone, without a
    colon and for port 80, or else the host, a colon, and a suffix without one that writes the port. The host is not
    empty. Any other text is refused as a whole, and what is written from an address with its port is read as that
    address. -/
theorem parse_exact :
    (∀ url a, parse url = .ok a ↔
      ∃ authority rest, url.toList = "http://".toList ++ authority ++ rest ∧ Spells authority rest a) ∧
    (∀ url, (∃ a, parse url = .ok a) ∨ parse url = .error (.invalidUrl url)) ∧
    ∀ (host : String) (port : UInt16) (path : String),
      host ≠ "" → '/' ∉ host.toList → path.toList.head? = some '/' →
      parse ("http://" ++ host ++ ":" ++ toString port.toNat ++ path) = .ok ⟨host, port, path⟩ := by
  refine ⟨fun _ _ => parse_eq_ok_iff, parse_ok_or_invalid, fun host port path hnamed hhost hpath => ?_⟩
  have hauthority : '/' ∉ host.toList ++ ':' :: Text.numeral port.toNat := by
    rw [List.mem_append, List.mem_cons, not_or, not_or]
    exact ⟨hhost, by decide, Text.not_mem_numeral (by decide) _⟩
  refine parse_eq_ok_iff.mpr ⟨host.toList ++ ':' :: Text.numeral port.toNat, path.toList, ?_, hauthority,
    .withPort (Text.not_mem_numeral (by decide) _) (writes_numeral port), hnamed, Or.inr ⟨hpath, rfl⟩⟩
  have hdigits : (toString port.toNat).toList = Text.numeral port.toNat := Nat.toList_repr
  have hcolon : ":".toList = [':'] := by decide
  simp only [String.toList_append, hdigits, hcolon, List.append_assoc, List.singleton_append]

/-- Reading an address whose host has a colon and whose path has another. -/
theorem parse_exact_colons :
    ("::1" ≠ "" ∧ '/' ∉ "::1".toList ∧ "/at:9".toList.head? = some '/') ∧
      parse "http://::1:8080/at:9" = .ok ⟨"::1", 8080, "/at:9"⟩ := by
  have hhost : '/' ∉ "::1".toList := by decide
  have hpath : "/at:9".toList.head? = some '/' := by decide
  have hurl : "http://" ++ "::1" ++ ":" ++ toString (8080 : UInt16).toNat ++ "/at:9" = "http://::1:8080/at:9" := by
    decide
  refine ⟨⟨by decide, hhost, hpath⟩, ?_⟩
  rw [← hurl]
  exact parse_exact.2.2 "::1" 8080 "/at:9" (by decide) hhost hpath

end Address
end FieldLogger.Http
