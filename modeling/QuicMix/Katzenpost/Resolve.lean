import QuicMix.Foundations.Text

namespace QuicMix
namespace Katzenpost

open Foundations

/-!
# Resolving a service in the PKI document

The daemon delivers the PKI document inside some layers of byte strings, tagged
or not.  `decode_document` peels them, up to a bound.  `resolve_service` then
goes through the descriptors of the document and takes the first one that
advertises the capability with a textual endpoint.  The CBOR library and the
hash function are parameters.
-/

/-- A decoded CBOR item. -/
inductive Value where
  | integer (number : Int)
  | bytes (bytes : List UInt8)
  | float (bits : BitVec 64)
  | text (text : Text)
  | bool (value : Bool)
  | null
  | tag (number : Nat) (value : Value)
  | array (items : List Value)
  | map (entries : List (Value × Value))

/-- The descriptors of the service nodes, each in its own encoding. -/
structure Document where
  serviceNodes : List (List UInt8)

structure MixDescriptor where
  identityKey : List UInt8
  kaetzchen : List (Text × List (Text × Value))

/-- What the CBOR library makes of bytes, for each type that is asked for. -/
structure Cbor where
  value : List UInt8 -> Option Value
  document : List UInt8 -> Option Document
  descriptor : List UInt8 -> Option MixDescriptor

structure Service (Digest : Type) where
  destinationIdHash : Digest
  recipientQueueId : List UInt8
  deriving DecidableEq

inductive ResolveError where
  | notCbor
  | undecodable
  | unexpectedTagged
  | unexpectedTopLevel
  | tooDeep
  | noIdentityKey (capability : Text)
  | notFound (capability : Text)
  deriving DecidableEq

section Resolution

variable (cbor : Cbor)

/-- The rounds of the peeling loop that are left. -/
def peel : Nat -> List UInt8 -> Except ResolveError Document
  | 0, _ => .error .tooDeep
  | left + 1, current =>
      match cbor.value current with
      | none => .error .notCbor
      | some (.map _) =>
          match cbor.document current with
          | none => .error .undecodable
          | some document => .ok document
      | some (.bytes inner) => peel left inner
      | some (.tag _ (.bytes inner)) => peel left inner
      | some (.tag _ _) => .error .unexpectedTagged
      | some _ => .error .unexpectedTopLevel

def decodeDocument (bytes : List UInt8) : Except ResolveError Document :=
  peel cbor 4 bytes

variable {Digest : Type} (blake2b256 : List UInt8 -> Digest) (capability : Text)

/-- The loop over the descriptors. -/
def resolveNodes : List (List UInt8) -> Except ResolveError (Service Digest)
  | [] => .error (.notFound capability)
  | raw :: rest =>
      match cbor.descriptor raw with
      | none => resolveNodes rest
      | some node =>
          match node.kaetzchen.lookup capability with
          | none => resolveNodes rest
          | some inner =>
              match inner.lookup "endpoint".toList with
              | some (.text endpoint) =>
                  if node.identityKey = [] then .error (.noIdentityKey capability)
                  else .ok ⟨blake2b256 node.identityKey, endpoint.encode⟩
              | _ => resolveNodes rest

def resolveService (pkiDoc : List UInt8) : Except ResolveError (Service Digest) :=
  match decodeDocument cbor pkiDoc with
  | .error error => .error error
  | .ok document => resolveNodes cbor blake2b256 capability document.serviceNodes

end Resolution

/-! ## What should be resolved -/

/-- The bytes are the inner ones in some layers of byte strings, each with or
without a tag. -/
inductive Wrapped (cbor : Cbor) : Nat -> List UInt8 -> List UInt8 -> Prop where
  | bare (inner : List UInt8) : Wrapped cbor 0 inner inner
  | bytes {layers : Nat} {outer middle inner : List UInt8}
      (decoded : cbor.value outer = some (.bytes middle))
      (wrapped : Wrapped cbor layers middle inner) :
      Wrapped cbor (layers + 1) outer inner
  | tagged {layers number : Nat} {outer middle inner : List UInt8}
      (decoded : cbor.value outer = some (.tag number (.bytes middle)))
      (wrapped : Wrapped cbor layers middle inner) : Wrapped cbor (layers + 1) outer inner

/-- A descriptor that is passed over: it cannot be decoded, it does not advertise
the capability, or its endpoint is not a text. -/
inductive Skipped (cbor : Cbor) (capability : Text) (raw : List UInt8) : Prop where
  | undecodable (unread : cbor.descriptor raw = none)
  | unadvertised {node : MixDescriptor} (decoded : cbor.descriptor raw = some node)
      (absent : node.kaetzchen.lookup capability = none)
  | untextual {node : MixDescriptor} {inner : List (Text × Value)}
      (decoded : cbor.descriptor raw = some node)
      (advertised : node.kaetzchen.lookup capability = some inner)
      (other : forall endpoint, inner.lookup "endpoint".toList ≠ some (.text endpoint))

/-- A descriptor that advertises the capability with a textual endpoint. -/
inductive Advertises (cbor : Cbor) (capability : Text) (raw : List UInt8) :
    List UInt8 -> Text -> Prop where
  | endpoint {node : MixDescriptor} {inner : List (Text × Value)} {endpoint : Text}
      (decoded : cbor.descriptor raw = some node)
      (advertised : node.kaetzchen.lookup capability = some inner)
      (text : inner.lookup "endpoint".toList = some (.text endpoint)) :
      Advertises cbor capability raw node.identityKey endpoint

/-- One list of descriptors is made into the other by adding and removing
descriptors that are passed over, anywhere. -/
inductive Edited (cbor : Cbor) (capability : Text) :
    List (List UInt8) -> List (List UInt8) -> Prop where
  | same (nodes : List (List UInt8)) : Edited cbor capability nodes nodes
  | add (front back : List (List UInt8)) {raw : List UInt8}
      (skipped : Skipped cbor capability raw) :
      Edited cbor capability (front ++ back) (front ++ raw :: back)
  | remove (front back : List (List UInt8)) {raw : List UInt8}
      (skipped : Skipped cbor capability raw) :
      Edited cbor capability (front ++ raw :: back) (front ++ back)
  | trans {first second third : List (List UInt8)} (begins : Edited cbor capability first second)
      (goes : Edited cbor capability second third) : Edited cbor capability first third

/-- The result for a list of descriptors: what the first one that advertises the
capability gives. -/
inductive Resolves (cbor : Cbor) {Digest : Type} (blake2b256 : List UInt8 -> Digest)
    (capability : Text) (nodes : List (List UInt8)) :
    Except ResolveError (Service Digest) -> Prop where
  | found {front back : List (List UInt8)} {raw key : List UInt8} {endpoint : Text}
      (split : nodes = front ++ raw :: back)
      (before : forall other, other ∈ front -> Skipped cbor capability other)
      (advertises : Advertises cbor capability raw key endpoint) (nonempty : key ≠ []) :
      Resolves cbor blake2b256 capability nodes (.ok ⟨blake2b256 key, endpoint.encode⟩)
  | keyless {front back : List (List UInt8)} {raw : List UInt8} {endpoint : Text}
      (split : nodes = front ++ raw :: back)
      (before : forall other, other ∈ front -> Skipped cbor capability other)
      (advertises : Advertises cbor capability raw [] endpoint) :
      Resolves cbor blake2b256 capability nodes (.error (.noIdentityKey capability))
  | absent (all : forall other, other ∈ nodes -> Skipped cbor capability other) :
      Resolves cbor blake2b256 capability nodes (.error (.notFound capability))

/-! ## The loops -/

section Loops

variable {cbor : Cbor} {Digest : Type} {blake2b256 : List UInt8 -> Digest} {capability : Text}

theorem skipped_or_advertises (cbor : Cbor) (capability : Text) (raw : List UInt8) :
    Skipped cbor capability raw ∨
      exists key endpoint, Advertises cbor capability raw key endpoint := by
  cases decoded : cbor.descriptor raw with
  | none => exact .inl (.undecodable decoded)
  | some node =>
      cases advertised : node.kaetzchen.lookup capability with
      | none => exact .inl (.unadvertised decoded advertised)
      | some inner =>
          by_cases textual : exists endpoint, inner.lookup "endpoint".toList = some (.text endpoint)
          · rcases textual with ⟨endpoint, text⟩
            exact .inr ⟨_, _, .endpoint decoded advertised text⟩
          · exact .inl
              (.untextual decoded advertised (fun endpoint text => textual ⟨endpoint, text⟩))

theorem resolveNodes_skip {raw : List UInt8} (skipped : Skipped cbor capability raw)
    (rest : List (List UInt8)) :
    resolveNodes cbor blake2b256 capability (raw :: rest) =
      resolveNodes cbor blake2b256 capability rest := by
  cases skipped with
  | undecodable unread => simp only [resolveNodes, unread]
  | unadvertised decoded absent => simp only [resolveNodes, decoded, absent]
  | untextual decoded advertised other =>
      simp only [resolveNodes, decoded, advertised]

theorem resolveNodes_take {raw key : List UInt8} {endpoint : Text}
    (advertises : Advertises cbor capability raw key endpoint) (rest : List (List UInt8)) :
    resolveNodes cbor blake2b256 capability (raw :: rest) =
      if key = [] then .error (.noIdentityKey capability)
      else .ok ⟨blake2b256 key, endpoint.encode⟩ := by
  cases advertises with
  | endpoint decoded advertised text => simp only [resolveNodes, decoded, advertised, text]

/-- Descriptors that are passed over can stand anywhere. -/
theorem resolveNodes_append {front : List (List UInt8)}
    (skipped : forall other, other ∈ front -> Skipped cbor capability other)
    (back : List (List UInt8)) :
    resolveNodes cbor blake2b256 capability (front ++ back) =
      resolveNodes cbor blake2b256 capability back := by
  induction front with
  | nil => rfl
  | cons raw rest inductionHypothesis =>
      rw [List.cons_append, resolveNodes_skip (skipped raw List.mem_cons_self)]
      exact inductionHypothesis
        (fun other member => skipped other (List.mem_cons_of_mem raw member))

theorem Resolves.skip {raw : List UInt8} (skipped : Skipped cbor capability raw)
    {rest : List (List UInt8)} {result : Except ResolveError (Service Digest)}
    (resolves : Resolves cbor blake2b256 capability rest result) :
    Resolves cbor blake2b256 capability (raw :: rest) result := by
  have extended : forall front : List (List UInt8),
      (forall other, other ∈ front -> Skipped cbor capability other) ->
      forall other, other ∈ raw :: front -> Skipped cbor capability other := by
    intro front before other member
    rcases List.mem_cons.mp member with rfl | inside
    · exact skipped
    · exact before other inside
  cases resolves with
  | @found front back found key endpoint split before advertises nonempty =>
      exact .found (congrArg (raw :: ·) split) (extended front before) advertises nonempty
  | @keyless front back found endpoint split before advertises =>
      exact .keyless (congrArg (raw :: ·) split) (extended front before) advertises
  | absent all => exact .absent (extended rest all)

theorem resolves_resolveNodes (nodes : List (List UInt8)) :
    Resolves cbor blake2b256 capability nodes (resolveNodes cbor blake2b256 capability nodes) := by
  have nothing : forall other, other ∈ ([] : List (List UInt8)) -> Skipped cbor capability other :=
    fun _ member => (List.not_mem_nil member).elim
  induction nodes with
  | nil => exact .absent nothing
  | cons raw rest inductionHypothesis =>
      rcases skipped_or_advertises cbor capability raw with skipped | ⟨key, endpoint, advertises⟩
      · rw [resolveNodes_skip skipped]
        exact inductionHypothesis.skip skipped
      · rw [resolveNodes_take advertises]
        by_cases empty : key = []
        · subst empty
          rw [if_pos rfl]
          exact .keyless (List.nil_append _).symm nothing advertises
        · rw [if_neg empty]
          exact .found (List.nil_append _).symm nothing advertises empty

/-- The loop returns what the first descriptor that advertises the capability
gives, and nothing else. -/
theorem resolveNodes_eq_iff {nodes : List (List UInt8)}
    {result : Except ResolveError (Service Digest)} :
    resolveNodes cbor blake2b256 capability nodes = result <->
      Resolves cbor blake2b256 capability nodes result := by
  constructor
  · rintro rfl
    exact resolves_resolveNodes nodes
  · intro resolves
    cases resolves with
    | found split before advertises nonempty =>
        rw [split, resolveNodes_append before, resolveNodes_take advertises, if_neg nonempty]
    | keyless split before advertises =>
        rw [split, resolveNodes_append before, resolveNodes_take advertises, if_pos rfl]
    | absent all =>
        have whole := @resolveNodes_append cbor Digest blake2b256 capability nodes all []
        rw [List.append_nil] at whole
        exact whole

theorem resolveNodes_insert (front back : List (List UInt8)) {raw : List UInt8}
    (skipped : Skipped cbor capability raw) :
    resolveNodes cbor blake2b256 capability (front ++ raw :: back) =
      resolveNodes cbor blake2b256 capability (front ++ back) := by
  induction front with
  | nil => exact resolveNodes_skip skipped back
  | cons first rest inductionHypothesis =>
      rw [List.cons_append, List.cons_append]
      rcases skipped_or_advertises cbor capability first with passed | ⟨key, endpoint, advertises⟩
      · rw [resolveNodes_skip passed, resolveNodes_skip passed]
        exact inductionHypothesis
      · rw [resolveNodes_take advertises, resolveNodes_take advertises]

theorem resolveNodes_edited {first second : List (List UInt8)}
    (edited : Edited cbor capability first second) :
    resolveNodes cbor blake2b256 capability first =
      resolveNodes cbor blake2b256 capability second := by
  induction edited with
  | same nodes => rfl
  | add front back skipped => exact (resolveNodes_insert front back skipped).symm
  | remove front back skipped => exact resolveNodes_insert front back skipped
  | trans _ _ begins goes => exact begins.trans goes

/-- Every layer takes one round of the loop. -/
theorem peel_wrapped {layers : Nat} {outer inner : List UInt8}
    (wrapped : Wrapped cbor layers outer inner) (left : Nat) :
    peel cbor (layers + left) outer = peel cbor left inner := by
  induction wrapped with
  | bare inner => rw [Nat.zero_add]
  | @bytes layers outer middle inner decoded wrapped inductionHypothesis =>
      rw [Nat.add_right_comm, peel, decoded]
      exact inductionHypothesis
  | @tagged layers number outer middle inner decoded wrapped inductionHypothesis =>
      rw [Nat.add_right_comm, peel, decoded]
      exact inductionHypothesis

/-- The loop gives up when its rounds are used up by layers. -/
theorem peel_tooDeep {layers : Nat} {outer inner : List UInt8}
    (wrapped : Wrapped cbor layers outer inner) {left : Nat} (many : left <= layers) :
    peel cbor left outer = .error .tooDeep := by
  induction wrapped generalizing left with
  | bare inner =>
      rw [Nat.le_zero.mp many]
      rfl
  | @bytes layers outer middle inner decoded wrapped inductionHypothesis =>
      cases left with
      | zero => rfl
      | succ left =>
          rw [peel, decoded]
          exact inductionHypothesis (Nat.le_of_succ_le_succ many)
  | @tagged layers number outer middle inner decoded wrapped inductionHypothesis =>
      cases left with
      | zero => rfl
      | succ left =>
          rw [peel, decoded]
          exact inductionHypothesis (Nat.le_of_succ_le_succ many)

/-- A document in at most three layers is decoded as the bare document. -/
theorem decodeDocument_wrapped {layers : Nat} (few : layers <= 3) {outer inner : List UInt8}
    (wrapped : Wrapped cbor layers outer inner) {entries : List (Value × Value)}
    (map : cbor.value inner = some (.map entries)) :
    decodeDocument cbor outer =
      match cbor.document inner with
      | none => .error .undecodable
      | some document => .ok document := by
  have rounds : layers + (3 - layers + 1) = 4 := by omega
  rw [decodeDocument, ← rounds, peel_wrapped wrapped, peel, map]

/-- What is resolved from a document in at most three layers. -/
theorem resolveService_wrapped {layers : Nat} (few : layers <= 3) {outer inner : List UInt8}
    (wrapped : Wrapped cbor layers outer inner) {entries : List (Value × Value)}
    (map : cbor.value inner = some (.map entries)) {document : Document}
    (decoded : cbor.document inner = some document) :
    resolveService cbor blake2b256 capability outer =
      resolveNodes cbor blake2b256 capability document.serviceNodes := by
  rw [resolveService, decodeDocument_wrapped few wrapped map, decoded]

end Loops

/-- Resolution takes the first descriptor that advertises the capability with a
textual endpoint, whatever layers the document is in up to three, and fails from
four layers on.  Neither the layers nor descriptors that are passed over matter. -/
theorem resolve_first_advertised (cbor : Cbor) {Digest : Type} (blake2b256 : List UInt8 -> Digest)
    (capability : Text) :
    (forall (layers : Nat) (outer inner : List UInt8) (entries : List (Value × Value)),
      layers <= 3 -> Wrapped cbor layers outer inner -> cbor.value inner = some (.map entries) ->
      (forall document, cbor.document inner = some document ->
        forall result, resolveService cbor blake2b256 capability outer = result <->
          Resolves cbor blake2b256 capability document.serviceNodes result) ∧
      (cbor.document inner = none ->
        resolveService cbor blake2b256 capability outer = .error .undecodable)) ∧
    (forall (layers : Nat) (outer inner : List UInt8),
      4 <= layers -> Wrapped cbor layers outer inner ->
      resolveService cbor blake2b256 capability outer = .error .tooDeep) ∧
    (forall (layers layers' : Nat) (outer outer' inner inner' : List UInt8)
        (entries entries' : List (Value × Value)) (document document' : Document),
      layers <= 3 -> Wrapped cbor layers outer inner -> cbor.value inner = some (.map entries) ->
      cbor.document inner = some document ->
      layers' <= 3 -> Wrapped cbor layers' outer' inner' ->
      cbor.value inner' = some (.map entries') -> cbor.document inner' = some document' ->
      Edited cbor capability document.serviceNodes document'.serviceNodes ->
      resolveService cbor blake2b256 capability outer =
        resolveService cbor blake2b256 capability outer') := by
  refine ⟨?_, ?_, ?_⟩
  · intro layers outer inner entries few wrapped map
    constructor
    · intro document decoded result
      rw [resolveService_wrapped few wrapped map decoded]
      exact resolveNodes_eq_iff
    · intro unread
      rw [resolveService, decodeDocument_wrapped few wrapped map, unread]
  · intro layers outer inner many wrapped
    rw [resolveService, decodeDocument, peel_tooDeep wrapped many]
  · intro layers layers' outer outer' inner inner' entries entries' document document'
      few wrapped map decoded few' wrapped' map' decoded' edited
    rw [resolveService_wrapped few wrapped map decoded,
      resolveService_wrapped few' wrapped' map' decoded']
    exact resolveNodes_edited edited

/-- A descriptor of a node that echoes. -/
def echoNode : List UInt8 :=
  [0xa2, 0x6b, 0x49, 0x64, 0x65, 0x6e, 0x74, 0x69, 0x74, 0x79, 0x4b, 0x65, 0x79, 0x41, 0x01, 0x69,
    0x4b, 0x61, 0x65, 0x74, 0x7a, 0x63, 0x68, 0x65, 0x6e, 0xa1, 0x64, 0x65, 0x63, 0x68, 0x6f, 0xa1,
    0x68, 0x65, 0x6e, 0x64, 0x70, 0x6f, 0x69, 0x6e, 0x74, 0x65, 0x2b, 0x65, 0x63, 0x68, 0x6f]

/-- A document with this descriptor. -/
def echoDocument : List UInt8 :=
  [0xa1, 0x6c, 0x53, 0x65, 0x72, 0x76, 0x69, 0x63, 0x65, 0x4e, 0x6f, 0x64, 0x65, 0x73, 0x81, 0x58,
    0x2f] ++ echoNode

/-- The document as a byte string. -/
def echoDelivered : List UInt8 := [0x58, 0x40] ++ echoDocument

/-- What a CBOR library makes of these bytes. -/
def echoCbor : Cbor where
  value bytes :=
    if bytes = echoDelivered then some (.bytes echoDocument)
    else if bytes = echoDocument then
      some (.map [(.text "ServiceNodes".toList, .array [.bytes echoNode])])
    else none
  document bytes := if bytes = echoDocument then some ⟨[echoNode]⟩ else none
  descriptor bytes :=
    if bytes = echoNode then
      some ⟨[1], [("echo".toList, [("endpoint".toList, .text "+echo".toList)])]⟩
    else none

theorem resolve_first_advertised_echo :
    resolveService echoCbor id "echo".toList echoDelivered =
      .ok ⟨[1], Text.encode "+echo".toList⟩ := by
  have wrapped : Wrapped echoCbor 1 echoDelivered echoDocument := .bytes rfl (.bare _)
  have advertises : Advertises echoCbor "echo".toList echoNode [1] "+echo".toList :=
    @Advertises.endpoint echoCbor "echo".toList echoNode
      ⟨[1], [("echo".toList, [("endpoint".toList, .text "+echo".toList)])]⟩ _ _ rfl rfl rfl
  refine (((resolve_first_advertised echoCbor id "echo".toList).1 1 echoDelivered echoDocument _
    (by decide) wrapped rfl).1 ⟨[echoNode]⟩ rfl _).mpr ?_
  exact .found (List.nil_append _).symm (fun _ member => (List.not_mem_nil member).elim)
    advertises (List.cons_ne_nil 1 [])

end Katzenpost
end QuicMix
