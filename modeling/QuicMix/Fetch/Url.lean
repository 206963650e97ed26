import Mathlib.Data.List.TakeWhile
import QuicMix.Foundations.Text

namespace QuicMix
namespace Fetch

open Foundations

/-!
# URLs of pages

`split_url` takes a URL apart by hand: the scheme, if one of the two known ones is
written, what stands before the first slash as host and port, and the rest as path.
From these parts `fetch_over_quicmix` makes the line for the gateway and the request for
the server.
-/

inductive Scheme where
  | http
  | https
  deriving DecidableEq, Repr

namespace Scheme

def name : Scheme -> Text
  | .http => "http".toList
  | .https => "https".toList

def defaultPort : Scheme -> Nat
  | .http => 80
  | .https => 443

end Scheme

structure SplitUrl where
  scheme : Scheme
  host : Text
  port : Nat
  path : Text
  deriving DecidableEq, Repr

/-- The scheme and what follows it; a URL without one is taken for `https`. -/
def splitScheme (url : Text) : Scheme × Text :=
  match url.stripStart "https://".toList with
  | some rest => (.https, rest)
  | none =>
      match url.stripStart "http://".toList with
      | some rest => (.http, rest)
      | none => (.https, url)

def beforeSlash (rest : Text) : Text :=
  rest.takeWhile (· != '/')

/-- The text from the first slash on; a slash if there is none. -/
def fromSlash (rest : Text) : Text :=
  match rest.dropWhile (· != '/') with
  | [] => ['/']
  | path => path

/-- The host and the port of an authority.  A port that cannot be read is replaced by
the default. -/
def splitAuthority (scheme : Scheme) (authority : Text) : Text × Nat :=
  match Text.rsplitOnce ':' authority with
  | some (host, port) => (host, (Text.parseU16 port).getD scheme.defaultPort)
  | none => (authority, scheme.defaultPort)

/-- `none` stands for the error "empty host in {url:?}". -/
def splitUrl (url : Text) : Option SplitUrl :=
  let scheme := (splitScheme url).1
  let rest := (splitScheme url).2
  let path := fromSlash rest
  let (host, port) := splitAuthority scheme (beforeSlash rest)
  if host.isEmpty then none
  else some ⟨scheme, host, port, if path.isEmpty then ['/'] else path⟩

namespace SplitUrl

/-- The line for the gateway, without its end. -/
def target (split : SplitUrl) : Text :=
  split.host ++ ':' :: Nat.toDigits 10 split.port

/-- The request for the server. -/
def request (split : SplitUrl) : Text :=
  "GET ".toList ++ split.path ++ " HTTP/1.1\r\nHost: ".toList ++ split.host ++
    ("\r\nUser-Agent: quicmix-demo/0.1\r\nAccept: text/html,*/*\r\n" ++
      "Accept-Encoding: identity\r\nConnection: close\r\n\r\n").toList

end SplitUrl

/-! ## What `split_url` returns -/

theorem fromSlash_ne_nil (rest : Text) : fromSlash rest ≠ [] := by
  unfold fromSlash
  split
  · exact List.cons_ne_nil _ _
  · rename_i path found
    exact fun empty => found empty

theorem beforeSlash_append {host : Text} (clear : '/' ∉ host) (rest : Text) :
    beforeSlash (host ++ '/' :: rest) = host ∧ fromSlash (host ++ '/' :: rest) = '/' :: rest := by
  have passed : forall char, char ∈ host -> (char != '/') = true := by
    intro char member
    exact bne_iff_ne.mpr (fun same => clear (same ▸ member))
  constructor
  · rw [beforeSlash, List.takeWhile_append_of_pos passed, List.takeWhile_cons_of_neg (by decide),
      List.append_nil]
  · rw [fromSlash, List.dropWhile_append_of_pos passed, List.dropWhile_cons_of_neg (by decide)]

theorem beforeSlash_of_not_mem {rest : Text} (clear : '/' ∉ rest) :
    beforeSlash rest = rest ∧ fromSlash rest = ['/'] := by
  have passed : forall char, char ∈ rest -> (char != '/') = true := by
    intro char member
    exact bne_iff_ne.mpr (fun same => clear (same ▸ member))
  constructor
  · exact List.takeWhile_eq_self_iff.mpr passed
  · rw [fromSlash, List.dropWhile_eq_nil_iff.mpr passed]

/-- The text is cut at its first slash. -/
theorem exists_fromSlash (rest : Text) :
    exists tail, rest = beforeSlash rest ++ tail ∧
      (tail = fromSlash rest ∨ tail = [] ∧ fromSlash rest = ['/']) := by
  refine ⟨rest.dropWhile (· != '/'), List.takeWhile_append_dropWhile.symm, ?_⟩
  unfold fromSlash
  split
  · rename_i empty
    exact .inr ⟨empty, rfl⟩
  · exact .inl rfl

theorem slash_not_mem_beforeSlash (rest : Text) : '/' ∉ beforeSlash rest := by
  intro member
  have kept := List.mem_takeWhile_imp member
  cases kept

/-- An authority is a host alone, or a host, a colon and a text that may be a port. -/
inductive Authority (scheme : Scheme) : (host : Text) -> (port : Nat) -> (text : Text) -> Prop where
  | bare (host : Text) (single : ':' ∉ host) : Authority scheme host scheme.defaultPort host
  | ported (host port : Text) (last : ':' ∉ port) :
      Authority scheme host ((Text.parseU16 port).getD scheme.defaultPort) (host ++ ':' :: port)

theorem authority_iff {scheme : Scheme} {host text : Text} {port : Nat} :
    Authority scheme host port text <-> splitAuthority scheme text = (host, port) := by
  constructor
  · intro authority
    cases authority with
    | bare single => rw [splitAuthority, Text.rsplitOnce_eq_none.mpr single]
    | ported port last => rw [splitAuthority, Text.rsplitOnce_append last]
  · intro split
    unfold splitAuthority at split
    cases found : Text.rsplitOnce ':' text with
    | none =>
        rw [found] at split
        cases split
        exact .bare _ (Text.rsplitOnce_eq_none.mp found)
    | some parts =>
        rcases parts with ⟨before, after⟩
        rcases Text.rsplitOnce_eq_some.mp found with ⟨rfl, last⟩
        rw [found] at split
        cases split
        exact .ported _ after last

/-- A host is an authority with itself as host only if it can be taken for nothing else. -/
theorem authority_self {scheme : Scheme} {host : Text} {port : Nat} :
    Authority scheme host port host <-> ':' ∉ host ∧ port = scheme.defaultPort := by
  constructor
  · intro authority
    have split := authority_iff.mp authority
    by_cases several : ':' ∈ host
    · rcases Text.exists_of_mem_last several with ⟨before, after, rfl, last⟩
      rw [splitAuthority, Text.rsplitOnce_append last] at split
      have lengths := congrArg (fun parts : Text × Nat => parts.1.length) split
      simp only [List.length_append, List.length_cons] at lengths
      omega
    · rw [splitAuthority, Text.rsplitOnce_eq_none.mpr several] at split
      exact ⟨several, (congrArg Prod.snd split).symm⟩
  · rintro ⟨single, rfl⟩
    exact .bare host single

theorem Authority.not_mem {scheme : Scheme} {host text : Text} {port : Nat} {char : Char}
    (authority : Authority scheme host port text) (absent : char ∉ text) : char ∉ host := by
  cases authority with
  | bare single => exact absent
  | ported port last => exact fun member => absent (List.mem_append_left _ member)

theorem splitUrl_eq_some {url : Text} {split : SplitUrl} :
    splitUrl url = some split <->
      split.scheme = (splitScheme url).1 ∧ split.path = fromSlash (splitScheme url).2 ∧
        split.host ≠ [] ∧
        Authority split.scheme split.host split.port (beforeSlash (splitScheme url).2) := by
  rcases split with ⟨scheme, host, port, path⟩
  rw [authority_iff]
  have written := fromSlash_ne_nil (splitScheme url).2
  rcases parts : splitAuthority (splitScheme url).1 (beforeSlash (splitScheme url).2) with
    ⟨found, number⟩
  simp only [splitUrl, parts, if_neg written, Option.ite_none_left_eq_some, List.isEmpty_iff,
    Option.some.injEq, SplitUrl.mk.injEq]
  constructor
  · rintro ⟨visible, rfl, rfl, rfl, rfl⟩
    exact ⟨rfl, rfl, visible, parts⟩
  · rintro ⟨rfl, rfl, visible, same⟩
    rw [parts] at same
    cases same
    exact ⟨visible, rfl, rfl, rfl, rfl⟩

theorem splitScheme_name (scheme : Scheme) (rest : Text) :
    splitScheme (scheme.name ++ "://".toList ++ rest) = (scheme, rest) := by
  cases scheme <;> rfl

/-- A host that `split_url` returns holds no slash. -/
theorem slash_not_mem_host {url : Text} {split : SplitUrl} (accepted : splitUrl url = some split) :
    '/' ∉ split.host :=
  (splitUrl_eq_some.mp accepted).2.2.2.not_mem (slash_not_mem_beforeSlash _)

end Fetch
end QuicMix
