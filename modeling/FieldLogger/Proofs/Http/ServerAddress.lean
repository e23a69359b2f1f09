import FieldLogger.Http.Exchange
import FieldLogger.Proofs.Config.Problems
import FieldLogger.Proofs.Http.Address
import FieldLogger.Proofs.Uplink.Outcome

/-! The server of a configuration and the posts to it. A configuration is judged by the scheme of the address alone, a
    post by the whole address, so a configuration without problems may name a server that no post can be made to: just
    when the authority has no host, or a last colon and no port after it (`server_address_exact`). -/

namespace FieldLogger.Http

namespace Address

/-- An authority that is no host with or without a port. -/
inductive Unusable : List Char → Prop
  | empty : Unusable []
  /-- No host stands before the last colon. -/
  | unnamed {suffix : List Char} (h : ':' ∉ suffix) : Unusable (':' :: suffix)
  /-- No port stands after the last colon. -/
  | unnumbered {before suffix : List Char} (h : ':' ∉ suffix) (hport : ∀ n, ¬Text.Writes UInt16.size suffix n) :
    Unusable (before ++ ':' :: suffix)

/-- A text that has the scheme: its authority, up to the first slash, and the rest. -/
structure Parted (url : String) (authority rest : List Char) : Prop where
  whole : url.toList = "http://".toList ++ authority ++ rest
  apart : '/' ∉ authority
  path : rest = [] ∨ rest.head? = some '/'

theorem exists_parted {url : String} (h : Config.scheme <+: url.toList) :
    ∃ authority rest, Parted url authority rest := by
  have hscheme : "http://".toList = Config.scheme := by decide
  obtain ⟨cs, hcs⟩ := h
  obtain ⟨hwhole, hapart, hpath⟩ := slash_iff.mp (⟨rfl, rfl⟩ : cs.takeWhile (· != '/') = _ ∧ cs.drop _ = _)
  exact ⟨_, _, by rw [← hcs, hscheme, List.append_assoc, ← hwhole], hapart, hpath⟩

theorem unusable_iff {authority : List Char} :
    Unusable authority ↔ ∀ host port, Authority authority host port → host = [] := by
  constructor
  · intro h host port hauthority
    cases hauthority with
    | bare hcolon =>
      cases h with
      | empty => rfl
      | unnamed => exact absurd List.mem_cons_self hcolon
      | unnumbered => exact absurd (List.mem_append_right _ List.mem_cons_self) hcolon
    | withPort hcolon hport =>
      generalize hwhole : host ++ ':' :: _ = whole at h
      have hlast := splitLast?_eq_some_iff.mpr ⟨hwhole.symm, hcolon⟩
      cases h with
      | empty => cases hlast
      | unnamed hsuffix =>
        have hlast' := splitLast?_append_cons hsuffix []
        rw [List.nil_append, hlast] at hlast'
        exact (Prod.mk.inj (Option.some.inj hlast')).1
      | unnumbered hsuffix hnone =>
        rename_i before _
        have hlast' := splitLast?_append_cons hsuffix before
        rw [hlast] at hlast'
        obtain ⟨-, rfl⟩ := Prod.mk.inj (Option.some.inj hlast')
        exact absurd hport (hnone _)
  · intro h
    cases hlast : splitLast? ':' authority with
    | none =>
      rw [h authority 80 (.bare (splitLast?_eq_none_iff.mp hlast))]
      exact .empty
    | some parts =>
      obtain ⟨host, suffix⟩ := parts
      obtain ⟨rfl, hsuffix⟩ := splitLast?_eq_some_iff.mp hlast
      by_cases hport : ∃ n, Text.Writes UInt16.size suffix n
      · obtain ⟨n, hn⟩ := hport
        have hn' : Text.Writes UInt16.size suffix (UInt16.ofNat n).toNat := by rwa [UInt16.toNat_ofNat_of_lt' hn.1]
        rw [h host _ (.withPort hsuffix hn')]
        exact .unnamed hsuffix
      · exact .unnumbered hsuffix fun n hn => hport ⟨n, hn⟩

theorem parse_ok_iff_of_parted {url : String} {authority rest : List Char} (h : Parted url authority rest) :
    (∃ a, parse url = .ok a) ↔ ¬Unusable authority := by
  rw [unusable_iff]
  constructor
  · rintro ⟨a, ha⟩ hempty
    obtain ⟨authority', rest', hwhole, hspells⟩ := parse_eq_ok_iff.mp ha
    have hsame : authority' ++ rest' = authority ++ rest := by
      rw [h.whole, List.append_assoc, List.append_assoc] at hwhole
      exact (List.append_cancel_left hwhole).symm
    -- the first slash is found in one place
    have hauthority : authority' = authority :=
      (slash_iff.mpr ⟨rfl, hspells.apart, hspells.path.imp And.left And.left⟩).1.symm.trans
        (slash_iff.mpr ⟨hsame, h.apart, h.path⟩).1
    have hparted := hspells.parted
    rw [hauthority] at hparted
    exact hspells.named (String.toList_eq_nil_iff.mp (hempty _ _ hparted))
  · intro h'
    simp only [not_forall] at h'
    obtain ⟨host, port, hparted, hhost⟩ := h'
    have hnamed : String.ofList host ≠ "" := fun hempty => hhost (String.ofList_eq_empty_iff.mp hempty)
    refine ⟨⟨String.ofList host, port, if rest.isEmpty then "/" else String.ofList rest⟩, ?_⟩
    refine parse_eq_ok_iff.mpr ⟨authority, rest, h.whole, h.apart, ?_, hnamed, (path_iff h.path).mp rfl⟩
    rw [String.toList_ofList]
    exact hparted

end Address

/-! ### The two judgements -/

theorem badUrl_not_mem_problems {c : Config} {a : Address} (h : Address.parse c.serverUrl = .ok a) (url : String) :
    .badUrl url ∉ c.problems := by
  obtain ⟨authority, rest, hwhole, -⟩ := Address.parse_eq_ok_iff.mp h
  have hscheme : Config.scheme <+: c.serverUrl.toList := by
    rw [hwhole, List.append_assoc]
    exact List.prefix_append _ _
  exact fun hmem => (Config.badUrl_mem_problems_iff.mp hmem).1.2 hscheme

/-- A client among this transport: a post starts or is refused as the transport says. -/
def OverHttp (s : Surroundings) : Prop := ∀ url body, s.start url body = (Transport.start url body).1

/-- No address that can be posted to is a problem of a configuration. Where the network is enabled and there are no
    problems, the address has the scheme, an authority and a rest, and it can be posted to just if the authority is
    usable: if so every post is started, and if not every post is refused for its address and the record is lost. -/
theorem server_address_exact {c : Config} :
    (∀ a, Address.parse c.serverUrl = .ok a → ∀ url, .badUrl url ∉ c.problems) ∧
    (c.enabled = true → c.problems = [] → ∃ authority rest, Address.Parted c.serverUrl authority rest ∧
      ((∃ a, Address.parse c.serverUrl = .ok a) ↔ ¬Address.Unusable authority) ∧
      (¬Address.Unusable authority → ∀ body, (Transport.start c.serverUrl body).1 = .ok ()) ∧
      (Address.Unusable authority → Address.parse c.serverUrl = .error (.invalidUrl c.serverUrl) ∧
        ∀ (s : Surroundings), OverHttp s → ∀ (u : Uplink) (record : String) (polls : Nat),
          u.url = c.serverUrl → u.slot.pending = some record →
          u.postIn s polls =
            some ⟨.error (.invalidUrl c.serverUrl), { u with slot := .empty }, [.start c.serverUrl record]⟩)) := by
  refine ⟨fun a ha url => badUrl_not_mem_problems ha url, fun henabled hproblems => ?_⟩
  have hvalid := Config.problems_eq_nil_iff.mp hproblems
  obtain ⟨authority, rest, hparted⟩ := Address.exists_parted (hvalid.scheme henabled)
  have hiff := Address.parse_ok_iff_of_parted hparted
  refine ⟨authority, rest, hparted, hiff, fun husable body => ?_, fun hunusable => ?_⟩
  · obtain ⟨a, ha⟩ := hiff.mpr husable
    unfold Transport.start
    rw [ha]
  · have hinvalid : Address.parse c.serverUrl = .error (.invalidUrl c.serverUrl) :=
      (Address.parse_ok_or_invalid c.serverUrl).resolve_left fun hok => hiff.mp hok hunusable
    refine ⟨hinvalid, fun s hs u record polls hurl hpending => ?_⟩
    have hstart : s.start u.url record = .error (.invalidUrl c.serverUrl) := by
      rw [hs, hurl]
      unfold Transport.start
      rw [hinvalid]
    rw [Uplink.postIn_of_refused hpending hstart polls, hurl]

/-- The factory's server, and one whose port is a word. -/
theorem server_address_exact_word_for_port :
    (Config.factory.enabled = true ∧ Config.factory.problems = [] ∧
      ∀ body, (Transport.start Config.factory.serverUrl body).1 = .ok ()) ∧
    let c : Config := { Config.factory with serverUrl := "http://host:porta/" }
    let u : Uplink := { Uplink.ofUrl c.serverUrl 5000 with slot := ⟨some "registro"⟩ }
    let s : Surroundings := ⟨fun url body => (Transport.start url body).1, fun _ => .inProgress, fun _ => 0⟩
    c.enabled = true ∧ c.problems = [] ∧ OverHttp s ∧
      u.postIn s 1 =
        some ⟨.error (.invalidUrl c.serverUrl), { u with slot := .empty }, [.start c.serverUrl "registro"]⟩ := by
  constructor
  · have hproblems : Config.factory.problems = [] := by decide
    have hparse : Address.parse Config.factory.serverUrl = .ok ⟨"127.0.0.1", 8080, "/api/hello"⟩ := by decide +kernel
    have henabled : Config.factory.enabled = true := rfl
    obtain ⟨authority, rest, -, hiff, hstarted, -⟩ := server_address_exact.2 henabled hproblems
    exact ⟨rfl, hproblems, hstarted (hiff.mp ⟨_, hparse⟩)⟩
  · intro c u s
    have hproblems : c.problems = [] := by decide
    have hparse : ¬∃ a, Address.parse c.serverUrl = .ok a := by
      have hrefused : Address.parse c.serverUrl = .error (.invalidUrl c.serverUrl) := by decide +kernel
      rintro ⟨a, ha⟩
      rw [hrefused] at ha
      cases ha
    have hover : OverHttp s := fun _ _ => rfl
    obtain ⟨authority, rest, -, hiff, -, hrefused⟩ := server_address_exact.2 (rfl : c.enabled = true) hproblems
    have hunusable : Address.Unusable authority := not_not.mp fun husable => hparse (hiff.mpr husable)
    exact ⟨rfl, hproblems, hover, (hrefused hunusable).2 s hover u "registro" 1 rfl rfl⟩

/-- A configuration without problems whose server is none. -/
theorem problem_free_address_refused :
    let c : Config := { Config.factory with serverUrl := "http://host:porta/" }
    c.enabled = true ∧ c.problems = [] ∧ Address.parse c.serverUrl = .error (.invalidUrl c.serverUrl) ∧
      ∀ body, (Transport.start c.serverUrl body).1 = .error (.invalidUrl c.serverUrl) := by
  intro c
  have hparse : Address.parse c.serverUrl = .error (.invalidUrl c.serverUrl) := by decide +kernel
  refine ⟨rfl, by decide, hparse, fun body => ?_⟩
  unfold Transport.start
  rw [hparse]

end FieldLogger.Http
