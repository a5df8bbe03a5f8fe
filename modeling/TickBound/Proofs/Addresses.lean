import TickBound.Proofs.Opening
import TickBound.Proofs.Traffic
import TickBound.Proofs.Trimming

/-!
# Addresses of probes

A probe is named by its host, or by an address with a scheme and any number of slashes behind. All
spellings of a host under one scheme name the same address, and it begins with the scheme. A host that
itself begins like a scheme is taken for an address, so it is not among the spellings: what is named by
it has no scheme at all.
-/

namespace TickBound

namespace Session

def schemes : List String :=
  ["http://", "https://"]

def slashes (k : Nat) : String :=
  String.ofList (List.replicate k '/')

structure IsHost (host : String) : Prop where
  named : host ≠ ""
  unslashed : '/' ∉ host.toList

def BeginsLikeScheme (text : String) : Prop :=
  "http".toList <+: text.toList

/-- The target is spelled as the host alone, or as an address with the scheme. -/
inductive Spells (host : String) : String → String → Prop where
  | bare : ¬ BeginsLikeScheme host → Spells host "http://" host
  | url {scheme : String} (k : Nat) :
      scheme ∈ schemes → Spells host scheme (scheme ++ host ++ slashes k)

variable {host scheme target : String}

theorem beginsLikeScheme_append (known : scheme ∈ schemes) (rest : String) :
    BeginsLikeScheme (scheme ++ rest) := by
  have begun : "http".toList <+: scheme.toList := by
    rcases List.mem_pair.mp known with rfl | rfl
    · exact ⟨"://".toList, rfl⟩
    · exact ⟨"s://".toList, rfl⟩
  rw [BeginsLikeScheme, String.toList_append]
  exact begun.trans (List.prefix_append _ _)

theorem address_of_bare (bare : ¬ BeginsLikeScheme target) :
    address target = "http://" ++ target ++ "/api" := by
  rw [address, if_neg (mt List.isPrefixOf_iff_prefix.mp bare)]

theorem address_of_url (begun : BeginsLikeScheme target) :
    address target =
      String.ofList (target.toList.reverse.dropWhile (· = '/')).reverse ++ "/api" := by
  rw [address, if_pos (List.isPrefixOf_iff_prefix.mpr begun)]

/-- Slashes behind a text that does not end in one are all that is taken off. -/
theorem unslashed_append {kept : List Char} (last : '/' ∉ kept.getLast?) (k : Nat) :
    ((kept ++ List.replicate k '/').reverse.dropWhile (· = '/')).reverse = kept := by
  refine Text.dropBehind_append (fun c mem => ?_) fun c mem => ?_
  · exact decide_eq_true (List.eq_of_mem_replicate mem)
  · refine decide_eq_false ?_
    rintro rfl
    exact last mem

theorem IsHost.last_ne (plain : IsHost host) (ahead : List Char) :
    '/' ∉ (ahead ++ host.toList).getLast? := by
  have some : host.toList ≠ [] := fun none => plain.named (String.toList_eq_nil_iff.mp none)
  rw [List.getLast?_append_of_ne_nil _ some]
  exact fun mem => plain.unslashed (List.mem_of_getLast? mem)

/-- Every spelling of a host under a scheme names the same address. -/
theorem Spells.address_eq (spelled : Spells host scheme target) (plain : IsHost host) :
    address target = scheme ++ host ++ "/api" := by
  cases spelled with
  | bare apart => exact address_of_bare apart
  | url k known =>
      have begun : BeginsLikeScheme (scheme ++ host ++ slashes k) := by
        rw [String.append_assoc]
        exact beginsLikeScheme_append known _
      have chars : (scheme ++ host ++ slashes k).toList =
          (scheme.toList ++ host.toList) ++ List.replicate k '/' := by
        simp [slashes]
      rw [address_of_url begun, chars, unslashed_append (plain.last_ne scheme.toList)]
      simp

theorem Spells.scheme_mem (spelled : Spells host scheme target) : scheme ∈ schemes := by
  cases spelled with
  | bare => exact List.mem_cons_self
  | url k known => exact known

/-- A session that is opened has the address of its target. -/
theorem url_of_attach {expected : Option String} {timeout : Float} {link : Link} {session : Session}
    (opened : ((attach target expected timeout).run link).result = .ok session) :
    session.url = address target := by
  by_cases serves : link.next.1.Serves .reset
  · obtain ⟨status, attached | ⟨fault, other⟩⟩ := attach_of_serves target expected timeout serves
    · rw [attached] at opened
      cases opened
      rfl
    · rw [other] at opened
      cases opened
  · by_cases tells : link.next.1.TellsStatus
    · obtain ⟨fault, refused⟩ := attach_of_refusal target expected timeout serves tells
      rw [refused] at opened
      cases opened
    · obtain ⟨fault, failed⟩ := attach_of_other target expected timeout tells
      rw [failed] at opened
      cases opened

/-- Every spelling of a host names the address below its scheme, however many slashes stand behind it.
That is where all requests of an attempt to open a session go, and the address of the session that is
opened. -/
theorem spellings_have_scheme (plain : IsHost host) (spelled : Spells host scheme target) :
    scheme ∈ schemes ∧ address target = scheme ++ host ++ "/api" ∧
    (∀ other, Spells host scheme other → address other = address target) ∧
    ∀ expected timeout link,
      let course := (attach target expected timeout).run link
      (∀ base request bound reply, .requested base request bound reply ∈ course.events →
        base = scheme ++ host ++ "/api") ∧
      ∀ session, course.result = .ok session → session.url = scheme ++ host ++ "/api" := by
  have same := spelled.address_eq plain
  refine ⟨spelled.scheme_mem, same, fun other spelled' => ?_, fun expected timeout link => ⟨?_, ?_⟩⟩
  · rw [same, spelled'.address_eq plain]
  · intro base request bound reply mem
    have carried : Route.Carries (fun _ _ => True) ⟨address target, timeout⟩ _ :=
      carries_attach target expected timeout link _ mem
    exact carried.1.trans same
  · intro session opened
    exact (url_of_attach opened).trans same

theorem spellings_have_scheme_slashes :
    IsHost "httpbin.local" ∧
      Spells "httpbin.local" "https://" ("https://" ++ "httpbin.local" ++ slashes 2) ∧
      address "https://httpbin.local//" = "https://httpbin.local/api" := by
  have plain : IsHost "httpbin.local" := ⟨by decide, by decide⟩
  have spelled : Spells "httpbin.local" "https://" ("https://" ++ "httpbin.local" ++ slashes 2) :=
    .url 2 (by decide)
  exact ⟨plain, spelled, (spellings_have_scheme plain spelled).2.1⟩

/-- A host that begins like a scheme is no address, but gets no scheme either. -/
theorem address_without_scheme :
    IsHost "httpbin.local" ∧ ':' ∉ "httpbin.local".toList ∧
      address "httpbin.local" = "httpbin.local/api" ∧
      ∀ scheme ∈ schemes, ¬ scheme.toList <+: (address "httpbin.local").toList := by
  have same : address "httpbin.local" = "httpbin.local/api" := by decide
  rw [same]
  exact ⟨⟨by decide, by decide⟩, by decide, rfl, by decide⟩

end Session

end TickBound
