import QuicMix.Gateway.Literals
import QuicMix.Gateway.Selection
import Mathlib.Data.List.TakeWhile

namespace QuicMix
namespace Gateway

open Foundations
open Text

/-!
# Addresses that a node is given

A node gets addresses as texts from two sides.  A sidecar prints the address of
its front on a line of its standard output, between whatever else it prints, and
the operator lists bootstrap gateways in the environment, with commas between
them.  Both are read here from what is written: the bytes of the output, cut into
lines as they are read, and the variables of the environment as `Config::from_env`
goes through them.
-/

/-! ## The characters of an address -/

/-- The marks in the texts of addresses that are no digits. -/
def addressMarks : Text := ['.', ':', '[', ']', '%']

/-- A character of the text of an address. -/
def AddressChar (char : Char) : Prop :=
  isDigitIn 16 char = true ∨ char ∈ addressMarks

theorem AddressChar.digit {number : Nat} {char : Char} (member : char ∈ Nat.toDigits 10 number) :
    AddressChar char :=
  .inl (isDigitIn_sixteen (isDigitIn_toDigits member))

theorem AddressChar.group {number : Nat} {char : Char} (member : char ∈ Nat.toDigits 16 number) :
    AddressChar char :=
  .inl ((toDigits_read (by decide) (by decide) number).1 char member)

theorem addressChar_ipv4 {first second third fourth : BitVec 8} {char : Char}
    (member : char ∈ Ipv4Addr.text first second third fourth) : AddressChar char := by
  simp only [Ipv4Addr.text, List.mem_append, List.mem_cons] at member
  rcases member with ((digit | rfl | digit) | rfl | digit) | rfl | digit
  · exact .digit digit
  · exact .inr (by decide)
  · exact .digit digit
  · exact .inr (by decide)
  · exact .digit digit
  · exact .inr (by decide)
  · exact .digit digit

theorem addressChar_fmt {groups : List Nat} {char : Char} (member : char ∈ fmtSubslice groups) :
    AddressChar char := by
  cases groups with
  | nil => cases member
  | cons group groups =>
      rw [fmtSubslice_cons, List.mem_append, laterGroups, List.mem_flatMap] at member
      rcases member with digit | ⟨later, _, listed⟩
      · exact .group digit
      · rcases List.mem_cons.mp listed with rfl | digit
        · exact .inr (by decide)
        · exact .group digit

theorem addressChar_ipv6 {bits : BitVec 128} {char : Char} (member : char ∈ Ipv6Addr.text bits) :
    AddressChar char := by
  have colon : AddressChar ':' := .inr (by decide)
  have digit : AddressChar 'f' := .inl (by decide)
  rw [Ipv6Addr.text] at member
  split at member
  · simp only [List.mem_cons] at member
    rcases member with rfl | rfl | rfl | rfl | rfl | rfl | rfl | member
    · exact colon
    · exact colon
    · exact digit
    · exact digit
    · exact digit
    · exact digit
    · exact colon
    · exact addressChar_ipv4 member
  · split at member
    · simp only [List.mem_append, List.mem_cons] at member
      rcases member with front | rfl | rfl | back
      · exact addressChar_fmt front
      · exact colon
      · exact colon
      · exact addressChar_fmt back
    · exact addressChar_fmt member

theorem addressChar_text {addr : SocketAddr} {char : Char} (member : char ∈ addr.text) :
    AddressChar char := by
  cases addr with
  | v4 first second third fourth port =>
      rw [SocketAddr.text, List.mem_append, List.mem_cons] at member
      rcases member with address | rfl | digit
      · exact addressChar_ipv4 address
      · exact .inr (by decide)
      · exact .digit digit
  | v6 bits port flowinfo scopeId =>
      have inScope : char ∈ scopeText scopeId -> AddressChar char := by
        intro listed
        rw [scopeText] at listed
        split at listed
        · cases listed
        · rcases List.mem_cons.mp listed with rfl | digit
          · exact .inr (by decide)
          · exact .digit digit
      simp only [text_v6, List.mem_append, List.mem_cons] at member
      rcases member with rfl | address | scope | rfl | rfl | digit
      · exact .inr (by decide)
      · exact addressChar_ipv6 address
      · exact inScope scope
      · exact .inr (by decide)
      · exact .inr (by decide)
      · exact .digit digit

theorem AddressChar.visible {char : Char} (listed : AddressChar char) :
    isWhitespace char = false := by
  rcases listed with digit | mark
  · rw [isDigitIn, digitIn] at digit
    rcases Option.isSome_iff_exists.mp digit with ⟨value, found⟩
    have read := (Option.filter_eq_some_iff.mp found).1
    rw [hexDigit] at read
    split at read
    case isTrue range =>
        have low : 48 <= char.toNat := range.1
        have high : char.toNat <= 57 := range.2
        exact isWhitespace_eq_false (by omega) (by omega)
    case isFalse =>
        split at read
        case isTrue range =>
            have low : 97 <= char.toNat := range.1
            have high : char.toNat <= 102 := range.2
            exact isWhitespace_eq_false (by omega) (by omega)
        case isFalse =>
            split at read
            case isTrue range =>
                have low : 65 <= char.toNat := range.1
                have high : char.toNat <= 70 := range.2
                exact isWhitespace_eq_false (by omega) (by omega)
            case isFalse => cases read
  · exact eq_false_of_ne_true (List.any_eq_false.mp rfl char mark)

theorem text_ne_nil (addr : SocketAddr) : addr.text ≠ [] := by
  intro empty
  have read := parse_text addr
  rw [empty] at read
  cases read

/-- There is nothing to trim around the text of an address. -/
theorem text_trimmed (addr : SocketAddr) : Trimmed addr.text where
  nonempty := text_ne_nil addr
  head := fun _ first => (addressChar_text (List.mem_of_mem_head? first)).visible
  last := fun _ final => (addressChar_text (List.mem_of_mem_getLast? final)).visible

theorem not_mem_text {addr : SocketAddr} {char : Char} (other : ¬ AddressChar char) :
    char ∉ addr.text :=
  fun member => other (addressChar_text member)

/-- How the standard library reads addresses. -/
def stdReader : AddrReader := ⟨SocketAddr.parse, IpAddr.parse⟩

/-! ## The output of a sidecar -/

/-- Without a carriage return at the end. -/
def withoutReturn (line : Text) : Text :=
  if line.getLast? = some '\r' then line.dropLast else line

/-- The lines that are read from an output, behind what has been read of the
first of them.  A line that is no text ends the reading, and at the end of the
output there may be a line without its line feed. -/
def outputLines (ending : OutputEnd) : List UInt8 -> List UInt8 -> List Text × OutputEnd
  | line, [] =>
      if ending = .exited ∧ line ≠ [] then
        match decode line with
        | some text => ([text], .exited)
        | none => ([], .unreadable)
      else ([], ending)
  | line, byte :: rest =>
      if byte = 10 then
        match decode line with
        | some text =>
            (withoutReturn text :: (outputLines ending [] rest).1, (outputLines ending [] rest).2)
        | none => ([], .unreadable)
      else outputLines ending (line ++ [byte]) rest

/-- A sidecar that runs and prints the given bytes. -/
def Sidecar.printing (bytes : List UInt8) (ending : OutputEnd) : Sidecar :=
  .output (outputLines ending [] bytes).1 (outputLines ending [] bytes).2

/-- `println!`. -/
def println (line : Text) : List UInt8 :=
  encode (line ++ ['\n'])

theorem outputLines_line {bytes : List UInt8} (single : 10 ∉ bytes) (ending : OutputEnd)
    (line rest : List UInt8) {text : Text} (read : decode (line ++ bytes) = some text) :
    outputLines ending line (bytes ++ 10 :: rest) =
      (withoutReturn text :: (outputLines ending [] rest).1, (outputLines ending [] rest).2) := by
  induction bytes generalizing line with
  | nil =>
      rw [List.append_nil] at read
      rw [List.nil_append, outputLines, if_pos rfl, read]
  | cons byte bytes inductionHypothesis =>
      rw [List.mem_cons, not_or] at single
      rw [List.cons_append, outputLines, if_neg (Ne.symm single.1)]
      apply inductionHypothesis single.2
      rw [List.append_assoc]
      exact read

/-- A printed line is read back, but for a carriage return at its end. -/
theorem outputLines_println {line : Text} (single : '\n' ∉ line) (ending : OutputEnd)
    (rest : List UInt8) :
    outputLines ending [] (println line ++ rest) =
      (withoutReturn line :: (outputLines ending [] rest).1, (outputLines ending [] rest).2) := by
  have bytes : println line ++ rest = encode line ++ 10 :: rest := by
    rw [println, encode_append, List.append_assoc]
    rfl
  rw [bytes]
  exact outputLines_line (newline_not_mem_encode single) ending [] rest (decode_encode line)

theorem withoutReturn_prefix_of (line : Text) : withoutReturn line <+: line := by
  rw [withoutReturn]
  split
  · exact List.dropLast_prefix line
  · exact List.prefix_refl line

theorem stripStart_eq_none {text start : Text} (other : ¬ start <+: text) :
    stripStart text start = none := by
  rw [stripStart, if_neg (fun begins => other (List.isPrefixOf_iff_prefix.mp begins))]

/-- Lines that announce nothing are passed over. -/
theorem readFront_append (reader : AddrReader) (program : Text) (ending : OutputEnd)
    {before : List Text} (silent : forall line, line ∈ before -> ¬ frontLine <+: line)
    (rest : List Text) :
    readFront reader program ending (before ++ rest) = readFront reader program ending rest := by
  induction before with
  | nil => rfl
  | cons line before inductionHypothesis =>
      rw [List.cons_append, readFront, stripStart_eq_none (silent line List.mem_cons_self)]
      exact inductionHypothesis
        (fun other member => silent other (List.mem_cons_of_mem line member))

theorem outputLines_printed {logs : List Text} (single : forall line, line ∈ logs -> '\n' ∉ line)
    (ending : OutputEnd) (rest : List UInt8) :
    outputLines ending [] (logs.flatMap println ++ rest) =
      (logs.map withoutReturn ++ (outputLines ending [] rest).1,
        (outputLines ending [] rest).2) := by
  induction logs with
  | nil => rfl
  | cons line logs inductionHypothesis =>
      rw [List.flatMap_cons, List.append_assoc,
        outputLines_println (single line List.mem_cons_self),
        inductionHypothesis (fun other member => single other (List.mem_cons_of_mem line member))]
      rfl

/-- The client dials the front that its sidecar announces, whatever address it is
and whatever the sidecar prints before and behind it. -/
theorem announced_front_dialed {outside : Outside} (reads : outside.reader = stdReader)
    (name program : Text) (args : List Text) (gateway front : SocketAddr) {logs : List Text}
    (single : forall line, line ∈ logs -> '\n' ∉ line)
    (silent : forall line, line ∈ logs -> ¬ frontLine <+: line) (after : List UInt8)
    (ending : OutputEnd)
    (printed : outside.sidecar program args gateway =
      .printing (logs.flatMap println ++ (println (frontLine ++ front.text) ++ after)) ending) :
    resolve outside gateway (.sidecarCmd name program args) =
      .ok ⟨front.unlabelled, .sidecarChild program⟩ := by
  have noBreak : '\n' ∉ frontLine ++ front.text := by
    rw [List.mem_append, not_or]
    exact ⟨by decide, not_mem_text (by
      rintro (digit | mark)
      · cases digit
      · exact absurd mark (by decide))⟩
  have noReturn : withoutReturn (frontLine ++ front.text) = frontLine ++ front.text := by
    rw [withoutReturn, if_neg]
    intro final
    rw [List.getLast?_append_of_ne_nil _ (text_ne_nil front)] at final
    exact absurd ((text_trimmed front).last '\r' final) (by decide)
  have passed : forall line, line ∈ logs.map withoutReturn -> ¬ frontLine <+: line := by
    intro line member begins
    rcases List.mem_map.mp member with ⟨log, listed, rfl⟩
    exact silent log listed (begins.trans (withoutReturn_prefix_of log))
  have trimmed : trim front.text = front.text := by
    have kept := @Trimmed.trim_append front.text [] (text_trimmed front) nofun
    rw [List.append_nil] at kept
    exact kept
  have read : readFront stdReader program
      (outputLines ending [] (logs.flatMap println ++
        (println (frontLine ++ front.text) ++ after))).2
      (outputLines ending [] (logs.flatMap println ++
        (println (frontLine ++ front.text) ++ after))).1 = .ok front.unlabelled := by
    rw [outputLines_printed single, outputLines_println noBreak, noReturn]
    rw [readFront_append stdReader program _ passed, readFront, stripStart_append]
    simp only [stdReader, trimmed, parse_text]
  rw [resolve, spawnSidecar, printed, Sidecar.printing]
  simp only [reads, read]
  rfl

/-- A sidecar for an address in brackets, between a line of its log and bytes
that are no text. -/
theorem announced_front_dialed_scoped :
    exists outside : Outside, outside.reader = stdReader ∧
      resolve outside (.v4 8 8 8 8 443) (.sidecarCmd "tor".toList "tor_sidecar".toList []) =
        .ok ⟨.v6 1 4433 0 7, .sidecarChild "tor_sidecar".toList⟩ := by
  refine ⟨⟨stdReader, fun _ _ _ => .printing (["open\r".toList].flatMap println ++
    (println (frontLine ++ (SocketAddr.v6 1 4433 9 7).text) ++ [255, 10])) .timedOut, none, none⟩,
    rfl, ?_⟩
  refine announced_front_dialed rfl "tor".toList "tor_sidecar".toList [] (.v4 8 8 8 8 443)
    (.v6 1 4433 9 7) ?_ ?_ [255, 10] .timedOut rfl
  · decide
  · decide

/-! ## The configuration -/

/-- The variables of the environment that a node reads. -/
structure ConfigEnv extends Env where
  gwBind : EnvVar
  ingressBind : EnvVar
  bootstrap : EnvVar
  publicIp : EnvVar
  certOut : EnvVar
  metricsWsBind : EnvVar
  streamBridgeBind : EnvVar
  deriving DecidableEq, Repr

structure Config where
  gwBind : SocketAddr
  ingressBind : Text
  bootstrap : List SocketAddr
  publicIp : Option IpAddr
  certOut : Option Text
  substrate : SubstrateChoice
  metricsWsBind : Option SocketAddr
  streamBridgeBind : Option SocketAddr
  deriving DecidableEq, Repr

/-- Why a node does not start: a variable with what could not be read of it, or
the choice of the substrate, or a default that is no address. -/
inductive ConfigError where
  | invalid (name : String) (value : Text)
  | substrate (error : FrontError)
  | unwrapped (value : Text)
  deriving DecidableEq, Repr

def defaultBootstrap : List Text :=
  ["64.226.93.43:4433".toList, "68.183.148.148:4433".toList]

def orElse {Value : Type} (error : ConfigError) : Option Value -> Except ConfigError Value
  | some value => .ok value
  | none => .error error

/-- The entries of a list that are not blank. -/
def bootstrapEntries (value : Text) : List Text :=
  ((value.splitOn ',').map trim).filter (fun entry => !entry.isEmpty)

def Config.readBootstrap (reader : AddrReader) : EnvVar -> Except ConfigError (List SocketAddr)
  | .text value =>
      (bootstrapEntries value).mapM (fun entry =>
        orElse (.invalid "QUICMIX_BOOTSTRAP" entry) (reader.socketAddr entry))
  | _ => defaultBootstrap.mapM (fun entry => orElse (.unwrapped entry) (reader.socketAddr entry))

/-- A variable that may be unset or empty. -/
def Config.readOptional {Value : Type} (name : String) (read : Text -> Option Value)
    (var : EnvVar) : Except ConfigError (Option Value) :=
  match var.value? with
  | none => .ok none
  | some value =>
      if value.isEmpty then .ok none
      else orElse (.invalid name value) ((read value).map some)

def Config.fromEnv (reader : AddrReader) (env : ConfigEnv) : Except ConfigError Config := do
  let bind := env.gwBind.value?.getD "0.0.0.0:4433".toList
  let gwBind <- orElse (.invalid "QUICMIX_GW_BIND" bind) (reader.socketAddr bind)
  let bootstrap <- readBootstrap reader env.bootstrap
  let publicIp <- readOptional "QUICMIX_PUBLIC_IP" reader.ipAddr env.publicIp
  let substrate <- (SubstrateChoice.fromEnv reader env.toEnv).mapError .substrate
  let metricsWsBind <- readOptional "QUICMIX_METRICS_WS_BIND" reader.socketAddr env.metricsWsBind
  let streamBridgeBind <-
    readOptional "QUICMIX_STREAM_BRIDGE_BIND" reader.socketAddr env.streamBridgeBind
  return {
    gwBind := gwBind
    ingressBind := env.ingressBind.value?.getD "127.0.0.1:8888".toList
    bootstrap := bootstrap
    publicIp := publicIp
    certOut := env.certOut.value?.filter (fun path => !path.isEmpty)
    substrate := substrate
    metricsWsBind := metricsWsBind
    streamBridgeBind := streamBridgeBind }

/-- How an entry of a list is written: an address with white space around it, or
white space alone. -/
inductive Spells : Text -> Option SocketAddr -> Prop where
  | blank (white : Text) (all : forall char, char ∈ white -> isWhitespace char = true) :
      Spells white none
  | padded (before after : Text) (addr : SocketAddr)
      (whiteBefore : forall char, char ∈ before -> isWhitespace char = true)
      (whiteAfter : forall char, char ∈ after -> isWhitespace char = true) :
      Spells (before ++ addr.text ++ after) (some addr)

theorem comma_not_white {white : Text}
    (all : forall char, char ∈ white -> isWhitespace char = true) : ',' ∉ white :=
  fun member => absurd (all ',' member) (by decide)

theorem Spells.single {entry : Text} {found : Option SocketAddr} (spells : Spells entry found) :
    ',' ∉ entry := by
  cases spells with
  | blank white all => exact comma_not_white all
  | padded before after addr whiteBefore whiteAfter =>
      have inside : ',' ∉ addr.text := not_mem_text (by
        rintro (digit | mark)
        · cases digit
        · exact absurd mark (by decide))
      simp only [List.mem_append, not_or]
      exact ⟨⟨comma_not_white whiteBefore, inside⟩, comma_not_white whiteAfter⟩

theorem trim_white {white : Text} (all : forall char, char ∈ white -> isWhitespace char = true) :
    trim white = [] := by
  have front : trimStart white = [] := by
    rw [trimStart, List.dropWhile_eq_nil_iff]
    exact all
  rw [trim, front]
  rfl

theorem Spells.trim_eq {entry : Text} {found : Option SocketAddr} (spells : Spells entry found) :
    trim entry = (found.map SocketAddr.text).getD [] := by
  cases spells with
  | blank white all => exact trim_white all
  | padded before after addr whiteBefore whiteAfter =>
      exact trim_of_trimmed (text_trimmed addr) whiteBefore whiteAfter

/-- The text of a list with what its entries stand for. -/
def listing (spelled : List (Text × Option SocketAddr)) : Text :=
  [','].intercalate (spelled.map Prod.fst)

theorem entries_of_spelled {spelled : List (Text × Option SocketAddr)}
    (each : forall entry, entry ∈ spelled -> Spells entry.1 entry.2) :
    ((spelled.map Prod.fst).map trim).filter (fun entry => !entry.isEmpty) =
      (spelled.filterMap Prod.snd).map SocketAddr.text := by
  induction spelled with
  | nil => rfl
  | cons entry spelled inductionHypothesis =>
      rcases entry with ⟨text, found⟩
      have trimmed := (each (text, found) List.mem_cons_self).trim_eq
      have rest := inductionHypothesis
        (fun other member => each other (List.mem_cons_of_mem (text, found) member))
      rw [List.map_cons, List.map_cons, trimmed]
      cases found with
      | none => exact rest
      | some addr =>
          have filled : (!addr.text.isEmpty) = true := by
            rw [Bool.not_eq_true', List.isEmpty_eq_false_iff]
            exact text_ne_nil addr
          change List.filter _ (addr.text :: _) = _
          rw [List.filter_cons, if_pos filled, rest]
          rfl

theorem bootstrapEntries_listing {spelled : List (Text × Option SocketAddr)}
    (each : forall entry, entry ∈ spelled -> Spells entry.1 entry.2) :
    bootstrapEntries (listing spelled) = (spelled.filterMap Prod.snd).map SocketAddr.text := by
  cases spelled with
  | nil => rfl
  | cons entry spelled =>
      rw [← entries_of_spelled each, bootstrapEntries, listing, List.splitOn_intercalate]
      · intro text member
        rcases List.mem_map.mp member with ⟨listed, found, rfl⟩
        exact (each listed found).single
      · exact nofun

theorem mapM_parse (addrs : List SocketAddr) :
    (addrs.map SocketAddr.text).mapM (fun entry =>
      orElse (.invalid "QUICMIX_BOOTSTRAP" entry) (stdReader.socketAddr entry)) =
      .ok (addrs.map SocketAddr.unlabelled) := by
  induction addrs with
  | nil => rfl
  | cons addr addrs inductionHypothesis =>
      have read : stdReader.socketAddr addr.text = some addr.unlabelled := parse_text addr
      rw [List.map_cons, List.mapM_cons, inductionHypothesis, read]
      rfl

/-- A list of bootstrap gateways is read as the addresses in it, in their order,
however it is padded; and the rest of the configuration, or the error in it, does
not depend on it. -/
theorem bootstrap_listed (env : ConfigEnv) {spelled : List (Text × Option SocketAddr)}
    (each : forall entry, entry ∈ spelled -> Spells entry.1 entry.2) :
    Config.fromEnv stdReader { env with bootstrap := .text (listing spelled) } =
      (Config.fromEnv stdReader { env with bootstrap := .text [] }).map (fun config =>
        { config with
          bootstrap := (spelled.filterMap Prod.snd).map SocketAddr.unlabelled }) := by
  have read : Config.readBootstrap stdReader (.text (listing spelled)) =
      .ok ((spelled.filterMap Prod.snd).map SocketAddr.unlabelled) := by
    rw [Config.readBootstrap, bootstrapEntries_listing each, mapM_parse]
  have empty : Config.readBootstrap stdReader (.text []) = .ok [] := rfl
  simp only [Config.fromEnv, read, empty]
  have mapped : forall (change : Config -> Config) (result : Except ConfigError Config),
      result.map change = change <$> result := fun _ _ => rfl
  simp only [mapped, map_bind, map_pure]
  rfl

/-- Two addresses with an empty entry between them and white space around them. -/
theorem bootstrap_listed_padded :
    (Config.fromEnv stdReader ⟨⟨.unset, .unset, .unset⟩, .unset, .unset,
      .text (listing [(" 64.226.93.43:4433".toList, some (.v4 64 226 93 43 4433)), ([], none),
        ("[::1]:443 ".toList, some (.v6 1 443 0 0))]), .unset, .unset, .unset, .unset⟩).map
          Config.bootstrap =
      .ok [.v4 64 226 93 43 4433, .v6 1 443 0 0] := by
  have each : forall entry, entry ∈ [(" 64.226.93.43:4433".toList,
      some (SocketAddr.v4 64 226 93 43 4433)), ([], none),
        ("[::1]:443 ".toList, some (.v6 1 443 0 0))] -> Spells entry.1 entry.2 := by
    intro entry member
    simp only [List.mem_cons, List.not_mem_nil, or_false] at member
    rcases member with rfl | rfl | rfl
    · exact .padded [' '] [] (.v4 64 226 93 43 4433) (List.all_eq_true.mp rfl) nofun
    · exact .blank [] nofun
    · exact .padded [] [' '] (.v6 1 443 0 0) nofun (List.all_eq_true.mp rfl)
  have listed := bootstrap_listed ⟨⟨.unset, .unset, .unset⟩, .unset, .unset, .unset, .unset,
    .unset, .unset, .unset⟩ each
  rw [listed]
  decide

end Gateway
end QuicMix
