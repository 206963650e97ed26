import QuicMix.Fetch.Chunked
import QuicMix.Fetch.Url

namespace QuicMix
namespace Fetch

open Foundations

/-!
# Fetching pages and following redirects

`fetch_over_quicmix` makes a request, parses the answer and, if it is a redirect, makes
the request that it resolves the location to, up to three times.  Every answer may
depend on all the requests so far; it is what `slurp` has read, or `none` if an error
occurs on the way.

A location passes through the table of headers, where the lookup lowers its letters,
and through `resolve_location`, which forgets the port.
-/

def crlfcrlf : List UInt8 := [13, 10, 13, 10]

def lineBreak : Text := ['\r', '\n']

structure Response where
  code : Nat
  headers : List (Text × Text)
  body : Buffer UInt8

/-- The second word of the status line, or zero. -/
def statusCode (status : Text) : Nat :=
  (((Text.splitWhitespace status)[1]?).bind Text.parseU16).getD 0

/-- The name of a header in lower case, and its value. -/
def headerOf (line : Text) : Option (Text × Text) :=
  (Text.splitOnce ':' line).map (fun parts =>
    (Text.lower (Text.trim parts.1), Text.trim parts.2))

/-- `none` stands for the error "no header terminator in response". -/
def parseResponse (raw : Buffer UInt8) : Option Response :=
  match position crlfcrlf raw.items with
  | none => none
  | some sep =>
      let lines := splitAll lineBreak (Text.decodeLossy (raw.items.take sep))
      some {
        code := statusCode (lines.headD [])
        headers := lines.tail.filterMap headerOf
        body := raw.drop (sep + 4) }

def headerValue (headers : List (Text × Text)) (name : Text) : Option Text :=
  (headers.find? (fun header => header.1 == name)).map (fun header => Text.lower header.2)

def resolveLocation (scheme : Scheme) (host location : Text) : Text :=
  if "http://".toList.isPrefixOf location || "https://".toList.isPrefixOf location then location
  else
    match location.stripStart ['/'] with
    | some stripped => scheme.name ++ "://".toList ++ host ++ '/' :: stripped
    | none => scheme.name ++ "://".toList ++ host ++ '/' :: location

/-- A page.  The time to its first byte is left out. -/
structure Fetched where
  code : Nat
  bytes : Nat
  body : List UInt8
  contentType : Text
  finalUrl : Text

/-- Where an answer leads. -/
inductive Progress where
  | redirected (url : Text)
  | answered (response : Response)
  | unterminated

/-- What is made of the answer to a request. -/
def respond (split : SplitUrl) (raw : Buffer UInt8) : Progress :=
  match parseResponse raw with
  | none => .unterminated
  | some response =>
      if 300 <= response.code ∧ response.code < 400 then
        match headerValue response.headers "location".toList with
        | some location => .redirected (resolveLocation split.scheme split.host location)
        | none => .answered response
      else .answered response

inductive FetchError where
  /-- "too many redirects" -/
  | redirects
  /-- "empty host in {url:?}" -/
  | host
  /-- The stream, the handshake or the request fails. -/
  | connection
  /-- "no header terminator in response" -/
  | unterminated
  deriving DecidableEq, Repr

/-- Whether the body is chunked. -/
def chunked (headers : List (Text × Text)) : Bool :=
  match headerValue headers "transfer-encoding".toList with
  | some coding => decide ("chunked".toList <:+: coding)
  | none => false

/-- The page of an answer; `none` if reading its chunks did not end. -/
def pageOf (profile : Profile) (url : Text) (response : Response) :
    Option (Except Panic Fetched) :=
  let body :=
    if chunked response.headers then dechunk profile response.body
    else some (.ok response.body.items)
  body.map (fun result => result.map (fun bytes =>
    { code := response.code
      bytes := bytes.length
      body := bytes
      contentType := (headerValue response.headers "content-type".toList).getD []
      finalUrl := url }))

/-- A request that was made, with the URL that it was made from. -/
structure PageRequest where
  url : Text
  split : SplitUrl
  deriving DecidableEq, Repr

/-- The requests that are made for a URL behind those that were made, and the result.
The depth of the source is four less what is left here. -/
def fetchFrom (profile : Profile) (answer : List PageRequest -> Option (Buffer UInt8)) :
    Nat -> List PageRequest -> Text ->
      List PageRequest × Except FetchError (Option (Except Panic Fetched))
  | 0, made, _ => (made, .error .redirects)
  | left + 1, made, url =>
      match splitUrl url with
      | none => (made, .error .host)
      | some split =>
          match answer (made ++ [⟨url, split⟩]) with
          | none => (made ++ [⟨url, split⟩], .error .connection)
          | some raw =>
              match respond split raw with
              | .redirected next => fetchFrom profile answer left (made ++ [⟨url, split⟩]) next
              | .answered response =>
                  (made ++ [⟨url, split⟩], .ok (pageOf profile url response))
              | .unterminated => (made ++ [⟨url, split⟩], .error .unterminated)

def fetchOverQuicmix (profile : Profile) (answer : List PageRequest -> Option (Buffer UInt8))
    (url : Text) : List PageRequest × Except FetchError (Option (Except Panic Fetched)) :=
  fetchFrom profile answer 4 [] url

/-- The request for a URL, if the URL is accepted. -/
def requestFor (url : Text) : Option PageRequest :=
  (splitUrl url).map (PageRequest.mk url)

/-- The requests that one level of the recursion leads to: none, one, or one with those of
the level below. -/
inductive Level (answer : List PageRequest -> Option (Buffer UInt8))
    (below : List PageRequest -> Text -> List PageRequest) (made : List PageRequest)
    (url : Text) : List PageRequest -> Prop where
  | rejected (empty : splitUrl url = none) : Level answer below made url made
  | last (split : SplitUrl) (accepted : splitUrl url = some split)
      (ends : forall raw next, answer (made ++ [⟨url, split⟩]) = some raw ->
        respond split raw ≠ .redirected next) :
      Level answer below made url (made ++ [⟨url, split⟩])
  | led (split : SplitUrl) (raw : Buffer UInt8) (next : Text)
      (accepted : splitUrl url = some split)
      (answered : answer (made ++ [⟨url, split⟩]) = some raw)
      (redirected : respond split raw = .redirected next) :
      Level answer below made url (below (made ++ [⟨url, split⟩]) next)

theorem fetchFrom_level (profile : Profile)
    (answer : List PageRequest -> Option (Buffer UInt8)) (left : Nat) (made : List PageRequest)
    (url : Text) :
    Level answer (fun made url => (fetchFrom profile answer left made url).1) made url
      (fetchFrom profile answer (left + 1) made url).1 := by
  rw [fetchFrom]
  cases accepted : splitUrl url with
  | none => exact .rejected accepted
  | some split =>
      dsimp only
      cases answered : answer (made ++ [⟨url, split⟩]) with
      | none => exact .last split accepted (by rw [answered]; exact nofun)
      | some raw =>
          have ends : (forall next, respond split raw ≠ .redirected next) ->
              forall other next, answer (made ++ [⟨url, split⟩]) = some other ->
                respond split other ≠ .redirected next := by
            intro elsewhere other next same
            rw [answered] at same
            cases same
            exact elsewhere next
          dsimp only
          cases responded : respond split raw with
          | redirected next => exact .led split raw next accepted answered responded
          | answered response => exact .last split accepted (ends (by rw [responded]; exact nofun))
          | unterminated => exact .last split accepted (ends (by rw [responded]; exact nofun))

/-- Every level of the recursion makes at most one request. -/
theorem length_fetchFrom (profile : Profile)
    (answer : List PageRequest -> Option (Buffer UInt8)) (left : Nat) (made : List PageRequest)
    (url : Text) : (fetchFrom profile answer left made url).1.length <= made.length + left := by
  induction left generalizing made url with
  | zero => exact Nat.le_refl _
  | succ left inductionHypothesis =>
      have level := fetchFrom_level profile answer left made url
      generalize (fetchFrom profile answer (left + 1) made url).1 = requests at level
      cases level with
      | rejected empty => exact Nat.le_add_right _ _
      | last split accepted ends =>
          rw [List.length_append, List.length_singleton]
          omega
      | led split raw next accepted answered redirected =>
          refine Nat.le_trans (inductionHypothesis _ _) ?_
          rw [List.length_append, List.length_singleton]
          omega

/-! ## Redirects as servers write them -/

/-- The line of a location: a name in any case, and the location between blanks. -/
def locationLine (name : Text) (lead : List UInt8) (location : Text) (trail : List UInt8) :
    List UInt8 :=
  Text.encode name ++ 58 :: (lead ++ (Text.encode location ++ trail))

/-- A line of a head: it is not empty and not broken. -/
def HeadLine (line : List UInt8) : Prop :=
  line ≠ [] ∧ ¬ crlf <:+: line

/-- A redirect, with the header that names its location first. -/
structure Redirection where
  status : List UInt8
  before : List (List UInt8)
  name : Text
  lead : List UInt8
  location : Text
  trail : List UInt8
  after : List (List UInt8)
  body : List UInt8
  code : 300 <= statusCode (Text.decodeLossy status) ∧
    statusCode (Text.decodeLossy status) < 400
  lines : forall line, line ∈ status :: before ++ locationLine name lead location trail :: after ->
    HeadLine line
  first : forall line, line ∈ before -> forall header,
    headerOf (Text.decodeLossy line) = some header -> header.1 ≠ "location".toList
  named : Text.lower name = "location".toList
  blankLead : forall byte, byte ∈ lead -> byte = 32 ∨ byte = 9
  blankTrail : forall byte, byte ∈ trail -> byte = 32 ∨ byte = 9
  visible : exists char, char ∈ location ∧ Text.isWhitespace char = false

namespace Redirection

def line (redirection : Redirection) : List UInt8 :=
  locationLine redirection.name redirection.lead redirection.location redirection.trail

def headLines (redirection : Redirection) : List (List UInt8) :=
  redirection.status :: redirection.before ++ redirection.line :: redirection.after

def bytes (redirection : Redirection) : List UInt8 :=
  List.intercalate crlf redirection.headLines ++ crlfcrlf ++ redirection.body

end Redirection

/-- Reading a head line by line. -/
theorem decodeLossy_intercalate (lines : List (List UInt8)) :
    Text.decodeLossy (List.intercalate crlf lines) =
      List.intercalate lineBreak (lines.map Text.decodeLossy) := by
  induction lines with
  | nil => rfl
  | cons line others inductionHypothesis =>
      cases others with
      | nil => rw [List.intercalate_singleton, List.map_singleton, List.intercalate_singleton]
      | cons next more =>
          have split : line ++ crlf ++ List.intercalate crlf (next :: more) =
              line ++ 13 :: 10 :: List.intercalate crlf (next :: more) := by
            rw [List.append_assoc]
            rfl
          rw [List.intercalate_cons_cons, split, Text.decodeLossy_append line (by decide),
            Text.decodeLossy_cons (by decide), inductionHypothesis]
          simp only [List.map_cons, List.intercalate_cons_cons, List.append_assoc]
          rfl

theorem HeadLine.clear {line : List UInt8} (whole : HeadLine line) : ClearOf crlf line :=
  (clearOf_pair (by decide)).mpr whole.2

theorem HeadLine.clear_text {line : List UInt8} (whole : HeadLine line) :
    ClearOf lineBreak (Text.decodeLossy line) := by
  apply (clearOf_pair (by decide)).mpr
  intro occurs
  exact whole.2 (Text.exists_pair occurs (by decide) (by decide))

/-- The answer is taken apart as it was written. -/
theorem parseResponse_lines {lines : List (List UInt8)} {body : List UInt8}
    (some_line : lines ≠ []) (whole : forall line, line ∈ lines -> HeadLine line)
    {raw : Buffer UInt8}
    (split : raw.items = List.intercalate crlf lines ++ crlfcrlf ++ body) :
    exists response, parseResponse raw = some response ∧
      response.code = statusCode ((lines.map Text.decodeLossy).headD []) ∧
      response.headers = (lines.map Text.decodeLossy).tail.filterMap headerOf := by
  have clear : ClearOf crlfcrlf (List.intercalate crlf lines) := by
    refine clearOf_intercalate (by decide) ?_ some_line
    intro line member
    exact ⟨(whole line member).1, (whole line member).clear⟩
  have found := position_append (by decide) clear body
  have head : raw.items.take (List.intercalate crlf lines).length =
      List.intercalate crlf lines := by
    rw [split, List.append_assoc, List.take_left]
  have cut : splitAll lineBreak (Text.decodeLossy (List.intercalate crlf lines)) =
      lines.map Text.decodeLossy := by
    rw [decodeLossy_intercalate]
    apply splitAll_intercalate (by decide)
    · exact fun empty => some_line (List.map_eq_nil_iff.mp empty)
    · intro text member
      rcases List.mem_map.mp member with ⟨line, listed, rfl⟩
      exact (whole line listed).clear_text
  rw [← split] at found
  simp only [parseResponse, found, head, cut]
  exact ⟨_, rfl, rfl, rfl⟩

theorem white_of_blank {bytes : List UInt8}
    (blanks : forall byte, byte ∈ bytes -> byte = 32 ∨ byte = 9) :
    (forall byte, byte ∈ bytes -> byte.toNat < 0x80) ∧
      forall char, char ∈ Text.ofAscii bytes -> Text.isWhitespace char = true := by
  constructor
  · intro byte member
    rcases blanks byte member with rfl | rfl <;> decide
  · intro char member
    rcases List.mem_map.mp member with ⟨byte, listed, rfl⟩
    rcases blanks byte listed with rfl | rfl <;> decide

namespace Redirection

variable (redirection : Redirection)

theorem colon_not_mem_name : ':' ∉ redirection.name := by
  intro member
  have lowered : Char.toLower ':' ∈ Text.lower redirection.name := List.mem_map_of_mem member
  rw [redirection.named] at lowered
  revert lowered
  decide

/-- The header that the line is read as. -/
theorem headerOf_line :
    headerOf (Text.decodeLossy redirection.line) =
      some ("location".toList, Text.trim redirection.location) := by
  have lead := white_of_blank redirection.blankLead
  have trail := white_of_blank redirection.blankTrail
  have name : Text.decodeLossy (Text.encode redirection.name) = redirection.name := by
    have read := Text.decodeLossy_encode redirection.name []
    rwa [List.append_nil, show Text.decodeLossy [] = [] from rfl, List.append_nil] at read
  have blanks : Text.decodeLossy redirection.trail = Text.ofAscii redirection.trail := by
    have read := Text.decodeLossy_ascii trail.1 []
    rwa [List.append_nil, show Text.decodeLossy [] = [] from rfl, List.append_nil] at read
  have text : Text.decodeLossy redirection.line = redirection.name ++ ':' ::
      (Text.ofAscii redirection.lead ++ redirection.location ++
        Text.ofAscii redirection.trail) := by
    rw [line, locationLine, Text.decodeLossy_append _ (by decide), name,
      Text.decodeLossy_ascii lead.1, Text.decodeLossy_encode, blanks, List.append_assoc]
    rfl
  have value := Text.trim_between redirection.visible lead.2 trail.2
  rw [headerOf, text, Text.splitOnce_append redirection.colon_not_mem_name, Option.map_some,
    ← Text.trim_lower, redirection.named, value]
  rfl

theorem headerValue_location :
    headerValue ((redirection.headLines.map Text.decodeLossy).tail.filterMap headerOf)
      "location".toList = some (Text.lower (Text.trim redirection.location)) := by
  have missed : ((redirection.before.map Text.decodeLossy).filterMap headerOf).find?
      (fun header => header.1 == "location".toList) = none := by
    apply List.find?_eq_none.mpr
    intro header member found
    rcases List.mem_filterMap.mp member with ⟨text, listed, read⟩
    rcases List.mem_map.mp listed with ⟨line, within, rfl⟩
    exact redirection.first line within header read (beq_iff_eq.mp found)
  rw [headLines, List.map_append, List.map_cons, List.cons_append, List.tail_cons,
    List.filterMap_append, List.map_cons, List.filterMap_cons_some redirection.headerOf_line,
    headerValue, List.find?_append, missed]
  rfl

/-- Where the code goes: to the location in lower case, trimmed, and resolved without the
port. -/
theorem respond_eq (split : SplitUrl) {raw : Buffer UInt8}
    (written : raw.items = redirection.bytes) :
    respond split raw = .redirected
      (resolveLocation split.scheme split.host
        (Text.lower (Text.trim redirection.location))) := by
  have nonempty : redirection.headLines ≠ [] := List.cons_ne_nil _ _
  rcases parseResponse_lines nonempty redirection.lines written with
    ⟨response, parsed, code, headers⟩
  have redirects : 300 <= response.code ∧ response.code < 400 := by
    rw [code]
    exact redirection.code
  have found := redirection.headerValue_location
  rw [← headers] at found
  simp only [respond, parsed, if_pos redirects, found]

end Redirection

/-! ## Which redirects are followed to where they point -/

/-- An absolute URL of one of the two schemes, in any case. -/
def AbsoluteUrl (location : Text) : Prop :=
  "http://".toList <+: Text.lower location ∨ "https://".toList <+: Text.lower location

/-- A path that begins with a single slash. -/
def AbsolutePath (location : Text) : Prop :=
  exists rest, location = '/' :: rest ∧ rest.head? ≠ some '/'

/-- A text without upper-case ASCII letters. -/
def Lowered (text : Text) : Prop :=
  forall char, char ∈ text -> char.isUpper = false

instance (text : Text) : Decidable (Lowered text) :=
  List.decidableBAll _ text

/-- The parts of `lower (trim location)` that decide how it is resolved. -/
theorem AbsoluteUrl.lower_trim {location : Text} (absolute : AbsoluteUrl location) :
    "http://".toList <+: Text.lower (Text.trim location) ∨
      "https://".toList <+: Text.lower (Text.trim location) := by
  rw [← Text.trim_lower]
  rcases absolute with ⟨rest, start⟩ | ⟨rest, start⟩
  · rcases @Text.exists_trim_append [] "http://".toList (by decide) nofun
      rest with ⟨kept, trimmed⟩
    rw [← start]
    exact .inl ⟨kept, trimmed.symm⟩
  · rcases @Text.exists_trim_append [] "https://".toList (by decide) nofun
      rest with ⟨kept, trimmed⟩
    rw [← start]
    exact .inr ⟨kept, trimmed.symm⟩

theorem resolveLocation_absolute (scheme : Scheme) (host : Text) {location : Text}
    (absolute : AbsoluteUrl location) :
    resolveLocation scheme host (Text.lower (Text.trim location)) =
      Text.lower (Text.trim location) := by
  apply if_pos
  rw [Bool.or_eq_true, List.isPrefixOf_iff_prefix, List.isPrefixOf_iff_prefix]
  exact absolute.lower_trim

/-- A lower-case location without a scheme begins with its slash. -/
theorem resolveLocation_path (scheme : Scheme) (host rest : Text) :
    resolveLocation scheme host ('/' :: rest) =
      scheme.name ++ "://".toList ++ host ++ '/' :: rest := by
  have relative : ¬ ("http://".toList.isPrefixOf ('/' :: rest) ||
      "https://".toList.isPrefixOf ('/' :: rest)) = true := by
    rw [Bool.or_eq_true, List.isPrefixOf_iff_prefix, List.isPrefixOf_iff_prefix]
    rintro (starts | starts)
    · exact absurd (List.cons_prefix_cons.mp starts).1 (by decide)
    · exact absurd (List.cons_prefix_cons.mp starts).1 (by decide)
  rw [resolveLocation, if_neg relative, Text.stripStart, if_pos (by rfl)]
  rfl

theorem lower_eq_self {text : Text} : Text.lower text = text <-> Lowered text := by
  have fixed := List.map_eq_map_iff (f := Char.toLower) (g := id) (l := text)
  rw [List.map_id] at fixed
  rw [Text.lower, fixed]
  exact forall₂_congr (fun char _ => Text.toLower_eq_self)

/-- What a path is resolved to is split into the path and the authority that the host
is taken for. -/
theorem splitUrl_resolved {scheme : Scheme} {host : Text} (clear : '/' ∉ host) {rest : Text}
    {found : SplitUrl} :
    splitUrl (resolveLocation scheme host ('/' :: rest)) = some found <->
      found.scheme = scheme ∧ found.path = '/' :: rest ∧ found.host ≠ [] ∧
        Authority found.scheme found.host found.port host := by
  have cut := beforeSlash_append clear rest
  rw [resolveLocation_path, List.append_assoc, splitUrl_eq_some, splitScheme_name, cut.1, cut.2]

/-- The requests of a fetch come behind those that were made, the one for its own URL
first. -/
theorem exists_fetchFrom (profile : Profile)
    (answer : List PageRequest -> Option (Buffer UInt8)) (left : Nat) (made : List PageRequest)
    (url : Text) :
    exists later, (fetchFrom profile answer left made url).1 = made ++ later ∧
      (0 < left -> later.head? = requestFor url) := by
  induction left generalizing made url with
  | zero => exact ⟨[], (List.append_nil made).symm, fun positive => absurd positive (by decide)⟩
  | succ left inductionHypothesis =>
      have level := fetchFrom_level profile answer left made url
      generalize (fetchFrom profile answer (left + 1) made url).1 = requests at level
      cases level with
      | rejected empty =>
          rw [requestFor, empty]
          exact ⟨[], (List.append_nil made).symm, fun _ => rfl⟩
      | last split accepted ends =>
          rw [requestFor, accepted]
          exact ⟨_, rfl, fun _ => rfl⟩
      | led split raw next accepted answered redirected =>
          rcases inductionHypothesis (made ++ [⟨url, split⟩]) next with ⟨later, trace, _⟩
          rw [List.append_assoc] at trace
          rw [requestFor, accepted]
          exact ⟨_, trace, fun _ => rfl⟩

/-- What holds of every request of a fetch: it was made from a URL that was accepted, and
if the answer leads on, then the next request is made from the URL that it leads to. -/
theorem fetchFrom_request {profile : Profile}
    {answer : List PageRequest -> Option (Buffer UInt8)} {left : Nat}
    {made before after : List PageRequest} {url : Text} {request : PageRequest}
    (trace : (fetchFrom profile answer left made url).1 = made ++ (before ++ request :: after)) :
    splitUrl request.url = some request.split ∧
      forall raw next, answer (made ++ (before ++ [request])) = some raw ->
        respond request.split raw = .redirected next -> before.length + 1 < left ->
        after.head? = requestFor next := by
  induction left generalizing made before url with
  | zero => exact absurd (List.self_eq_append_right.mp trace) (by simp)
  | succ left inductionHypothesis =>
      have level := fetchFrom_level profile answer left made url
      generalize (fetchFrom profile answer (left + 1) made url).1 = requests at level trace
      cases level with
      | rejected empty => exact absurd (List.self_eq_append_right.mp trace) (by simp)
      | last split accepted ends =>
          rcases List.append_eq_singleton_iff.mp (List.append_cancel_left trace).symm with
            ⟨rfl, single⟩ | ⟨_, impossible⟩
          · cases single
            exact ⟨accepted, fun raw next answered redirected =>
              absurd redirected (ends raw next answered)⟩
          · cases impossible
      | led split raw next accepted answered redirected =>
          cases before with
          | nil =>
              rcases exists_fetchFrom profile answer left (made ++ [⟨url, split⟩]) next with
                ⟨later, requests, first⟩
              rw [requests, List.append_assoc] at trace
              cases List.append_cancel_left trace
              refine ⟨accepted, ?_⟩
              intro other target same leads early
              rw [List.nil_append, answered] at same
              cases same
              rw [redirected] at leads
              cases leads
              exact first (Nat.lt_of_succ_lt_succ early)
          | cons earlier before =>
              rcases exists_fetchFrom profile answer left (made ++ [⟨url, split⟩]) next with
                ⟨later, requests, _⟩
              have same := trace
              rw [requests, List.append_assoc] at same
              cases List.append_cancel_left same
              have step := inductionHypothesis (trace.trans (List.append_cons made _ _))
              refine ⟨step.1, ?_⟩
              intro other target written leads early
              apply step.2 other target _ leads (Nat.lt_of_succ_lt_succ early)
              rw [← List.append_cons]
              exact written

/-- A location was followed: to itself if it is a URL, and to the path on the server of
the request otherwise. -/
def Followed (location : Text) (request : PageRequest) (next : Option PageRequest) : Prop :=
  (AbsoluteUrl location -> next.map PageRequest.url = some location) ∧
    (AbsolutePath location ->
      next.map PageRequest.split = some { request.split with path := location })

theorem AbsolutePath.not_absoluteUrl {location : Text} (path : AbsolutePath location) :
    ¬ AbsoluteUrl location := by
  rcases path with ⟨rest, rfl, _⟩
  rintro (starts | starts)
  · exact absurd (List.cons_prefix_cons.mp starts).1 (by decide)
  · exact absurd (List.cons_prefix_cons.mp starts).1 (by decide)

/-- The URL that a request is led to by a location. -/
def PageRequest.next (request : PageRequest) (location : Text) : Text :=
  resolveLocation request.split.scheme request.split.host (Text.lower (Text.trim location))

theorem followed_url {location : Text} (absolute : AbsoluteUrl location)
    (visible : exists char, char ∈ location ∧ Text.isWhitespace char = false)
    (accepted : splitUrl location ≠ none) (request : PageRequest) :
    Followed location request (requestFor (request.next location)) <->
      Text.Trimmed location ∧ Lowered location := by
  rw [PageRequest.next, resolveLocation_absolute _ _ absolute, ← lower_eq_self,
    ← Text.lower_trim_eq_self visible]
  constructor
  · intro followed
    have same := followed.1 absolute
    rw [requestFor, Option.map_map] at same
    rcases Option.map_eq_some_iff.mp same with ⟨split, _, equal⟩
    exact equal
  · intro lowered
    refine ⟨fun _ => ?_, fun path => absurd absolute path.not_absoluteUrl⟩
    rcases Option.ne_none_iff_exists'.mp accepted with ⟨split, found⟩
    rw [lowered, requestFor, found]
    rfl

theorem followed_path {location : Text} (path : AbsolutePath location)
    (visible : exists char, char ∈ location ∧ Text.isWhitespace char = false)
    {request : PageRequest} (accepted : splitUrl request.url = some request.split) :
    Followed location request (requestFor (request.next location)) <->
      (Text.Trimmed location ∧ Lowered location) ∧ ':' ∉ request.split.host ∧
        request.split.port = request.split.scheme.defaultPort := by
  have clear := slash_not_mem_host accepted
  have hosted := (splitUrl_eq_some.mp accepted).2.2.1
  rw [← lower_eq_self, ← Text.lower_trim_eq_self visible, ← authority_self]
  have start : exists kept, Text.lower (Text.trim location) = '/' :: kept := by
    rcases path with ⟨rest, rfl, _⟩
    rcases @Text.exists_trim_append [] ['/'] (by decide) nofun rest with
      ⟨kept, trimmed⟩
    exact ⟨Text.lower kept, congrArg Text.lower trimmed⟩
  rcases start with ⟨kept, start⟩
  constructor
  · intro followed
    have same := followed.2 path
    rw [requestFor, Option.map_map] at same
    rcases Option.map_eq_some_iff.mp same with ⟨split, found, equal⟩
    rw [PageRequest.next, start, splitUrl_resolved clear] at found
    cases equal
    exact ⟨start.trans found.2.1.symm, found.2.2.2⟩
  · rintro ⟨lowered, authority⟩
    refine ⟨fun absolute => absurd absolute path.not_absoluteUrl, fun _ => ?_⟩
    have found : splitUrl (request.next location) =
        some { request.split with path := location } := by
      rw [PageRequest.next, start, splitUrl_resolved clear]
      exact ⟨rfl, lowered.symm.trans start, hosted, authority⟩
    rw [requestFor, found]
    rfl

/-- A redirect is followed to where it points if and only if its location is trimmed and
has no upper-case letter and, where it is a path, the server has the default port and a
host without colons.  No server brings about more than four requests. -/
theorem redirects_followed_iff (profile : Profile)
    (answer : List PageRequest -> Option (Buffer UInt8)) (url : Text) :
    (fetchOverQuicmix profile answer url).1.length <= 4 ∧
    forall (before after : List PageRequest) (request : PageRequest) (raw : Buffer UInt8)
      (redirection : Redirection),
      (fetchOverQuicmix profile answer url).1 = before ++ request :: after ->
      before.length < 3 -> answer (before ++ [request]) = some raw ->
      raw.items = redirection.bytes ->
      AbsoluteUrl redirection.location ∧ splitUrl redirection.location ≠ none ∨
        AbsolutePath redirection.location ->
      (Followed redirection.location request after.head? <->
        (Text.Trimmed redirection.location ∧ Lowered redirection.location) ∧
          (AbsolutePath redirection.location ->
            ':' ∉ request.split.host ∧
              request.split.port = request.split.scheme.defaultPort)) := by
  constructor
  · have bound := length_fetchFrom profile answer 4 [] url
    rwa [List.length_nil, Nat.zero_add] at bound
  · intro before after request raw redirection trace early answered written shape
    have run := @fetchFrom_request profile answer 4 [] before after url request trace
    have next := run.2 raw _ answered (redirection.respond_eq request.split written)
      (Nat.succ_lt_succ early)
    rw [next]
    rcases shape with ⟨absolute, hosted⟩ | path
    · have alone : AbsolutePath redirection.location -> ':' ∉ request.split.host ∧
          request.split.port = request.split.scheme.defaultPort :=
        fun path => absurd absolute path.not_absoluteUrl
      exact (followed_url absolute redirection.visible hosted request).trans
        (and_iff_left alone).symm
    · rw [forall_prop_of_true path]
      exact followed_path path redirection.visible run.1

def foundStatus : List UInt8 := Text.encode "HTTP/1.1 302 Found".toList

theorem headLine_foundStatus : HeadLine foundStatus :=
  ⟨by decide +kernel, by decide +kernel⟩

theorem statusCode_foundStatus : statusCode (Text.decodeLossy foundStatus) = 302 := by
  decide +kernel

/-- The answer "302 Found" with a location and nothing else. -/
def Redirection.plain (location : Text)
    (whole : HeadLine (locationLine "Location".toList [32] location []))
    (visible : exists char, char ∈ location ∧ Text.isWhitespace char = false) : Redirection where
  status := foundStatus
  before := []
  name := "Location".toList
  lead := [32]
  location := location
  trail := []
  after := []
  body := []
  code := by
    rw [statusCode_foundStatus]
    decide
  lines := List.forall_mem_cons.mpr ⟨headLine_foundStatus, List.forall_mem_singleton.mpr whole⟩
  first := fun _ member => absurd member List.not_mem_nil
  named := by decide
  blankLead := List.forall_mem_singleton.mpr (.inl rfl)
  blankTrail := fun _ member => absurd member List.not_mem_nil
  visible := visible

/-- A server that answers the first request and no other. -/
def answerFirst (raw : Buffer UInt8) (requests : List PageRequest) : Option (Buffer UInt8) :=
  if requests.length = 1 then some raw else none

def redirectionToPath : Redirection :=
  Redirection.plain "/b".toList ⟨by decide +kernel, by decide +kernel⟩ ⟨'/', by decide, by decide⟩

def redirectionToUrl : Redirection :=
  Redirection.plain "http://h/B".toList ⟨by decide +kernel, by decide +kernel⟩
    ⟨'/', by decide, by decide⟩

theorem redirects_followed_default_port :
    exists answer raw request next,
      (fetchOverQuicmix .debug answer "http://h/a".toList).1 = [request, next] ∧
      answer [request] = some raw ∧ raw.items = redirectionToPath.bytes ∧
      Followed redirectionToPath.location request (some next) := by
  have trace : (fetchOverQuicmix .debug
        (answerFirst ⟨redirectionToPath.bytes, by decide +kernel⟩) "http://h/a".toList).1 =
      [⟨"http://h/a".toList, ⟨.http, "h".toList, 80, "/a".toList⟩⟩,
        ⟨"http://h/b".toList, ⟨.http, "h".toList, 80, "/b".toList⟩⟩] := by
    decide +kernel
  refine ⟨_, _, _, _, trace, rfl, rfl, ?_⟩
  refine ((redirects_followed_iff .debug _ _).2 [] _ _ _ redirectionToPath trace (by decide) rfl rfl
    (.inr ⟨['b'], rfl, by decide⟩)).mpr ⟨⟨by decide, by decide⟩, fun _ => ⟨by decide, rfl⟩⟩

/-- A path is looked for at port 80 behind a redirect from port 8080, and a URL with a
letter in upper case becomes another URL. -/
theorem redirects_lose_port_and_case :
    (exists answer raw request next,
      (fetchOverQuicmix .debug answer "http://h:8080/a".toList).1 = [request, next] ∧
      answer [request] = some raw ∧ raw.items = redirectionToPath.bytes ∧
      AbsolutePath redirectionToPath.location ∧
      ¬ Followed redirectionToPath.location request (some next)) ∧
    exists answer raw request next,
      (fetchOverQuicmix .debug answer "http://h/a".toList).1 = [request, next] ∧
      answer [request] = some raw ∧ raw.items = redirectionToUrl.bytes ∧
      AbsoluteUrl redirectionToUrl.location ∧
      ¬ Followed redirectionToUrl.location request (some next) := by
  constructor
  · have trace : (fetchOverQuicmix .debug
          (answerFirst ⟨redirectionToPath.bytes, by decide +kernel⟩) "http://h:8080/a".toList).1 =
        [⟨"http://h:8080/a".toList, ⟨.http, "h".toList, 8080, "/a".toList⟩⟩,
          ⟨"http://h/b".toList, ⟨.http, "h".toList, 80, "/b".toList⟩⟩] := by
      decide +kernel
    have path : AbsolutePath redirectionToPath.location := ⟨['b'], rfl, by decide⟩
    refine ⟨_, _, _, _, trace, rfl, rfl, path, fun followed => ?_⟩
    have same := followed.2 path
    revert same
    decide
  · have trace : (fetchOverQuicmix .debug
          (answerFirst ⟨redirectionToUrl.bytes, by decide +kernel⟩) "http://h/a".toList).1 =
        [⟨"http://h/a".toList, ⟨.http, "h".toList, 80, "/a".toList⟩⟩,
          ⟨"http://h/b".toList, ⟨.http, "h".toList, 80, "/b".toList⟩⟩] := by
      decide +kernel
    have absolute : AbsoluteUrl redirectionToUrl.location := .inl ⟨"h/b".toList, rfl⟩
    refine ⟨_, _, _, _, trace, rfl, rfl, absolute, fun followed => ?_⟩
    have same := followed.1 absolute
    revert same
    decide

end Fetch
end QuicMix
