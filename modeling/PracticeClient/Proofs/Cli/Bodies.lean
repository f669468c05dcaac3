import PracticeClient.Proofs.Cli.Posting
import PracticeClient.Proofs.Client.Replies
import PracticeClient.Proofs.Json.Members
import PracticeClient.Proofs.Json.Repairs
import PracticeClient.Proofs.Text.Utf8

namespace PracticeClient

namespace Json

open Grammar

def isPlain (c : Char) : Bool :=
  c != '"' && c != '\\' && 32 ≤ c.toNat

theorem means_plain {text : List Char} (plain : text.all isPlain = true) : Means text text := by
  induction text with
  | nil => exact .nil
  | cons c text ih =>
    obtain ⟨first, rest⟩ := Bool.and_eq_true_iff.1 plain
    simp only [isPlain, Bool.and_eq_true, bne_iff_ne, decide_eq_true_eq] at first
    exact .plain first.1.1 first.1.2 first.2 (ih rest)

end Json

namespace LoginReply

open Json.Grammar

def accepting (spelling : Bytes) : Bytes :=
  Text.utf8 "\x7b\"success\":1,\"token\":\"" ++ spelling ++ Text.utf8 "\"\x7d"

theorem decodeLossy_accepting (spelling : Bytes) :
    (Text.decodeLossy (accepting spelling)).toList =
      "\x7b\"success\":1,\"token\":\"".toList ++
        ((Text.decodeLossy spelling).toList ++ "\"\x7d".toList) := by
  have last : Text.utf8 "\"\x7d" = [0x22, 0x7D] := by decide
  have spelled := Text.scalars_append_ascii (nofun : Text.Pending.Bounded none) spelling
    (show (0x22 : UInt8) < 0x80 by decide) [0x7D]
  have brace : Text.scalars none [0x7D] = [some '\x7d'] := by decide
  rw [accepting, List.append_assoc, last, Text.decodeLossy, Text.scalars_utf8_append, spelled,
    brace]
  simp [Text.decodeLossy]

def spelledEntries (content : List Char) : List Entry :=
  [("success".toList, Nat.toDigits 10 1), ("token".toList, '"' :: (content ++ ['"']))]

theorem isObject_accepting {content : List Char} (quoted : IsQuoted content) :
    IsObject ("\x7b\"success\":1,\"token\":\"".toList ++ (content ++ "\"\x7d".toList))
      (spelledEntries content) := by
  have member {name : List Char} (named : IsQuoted name) {value : List Char}
      (derives : Derives .value value) :
      Derives (.member (name, value)) ([] ++ '"' :: (name ++ '"' :: ([] ++ ':' ::
        ([] ++ (value ++ []))))) :=
    .member nofun named nofun (.item nofun derives nofun)
  have success := member (Json.means_plain rfl : Means _ "success".toList).isQuoted
    (Json.derives_leaf (.natural (show 1 ≤ Json.Numeral.greatestWord by decide)))
  have token := member (Json.means_plain rfl : Means _ "token".toList).isQuoted
    (.string quoted)
  have object : IsObject _ (spelledEntries content) :=
    .object (nofun : Blank []) (.moreMembers success (.lastMember token)) (nofun : Blank [])
  have one : Nat.toDigits 10 1 = ['1'] := by decide
  simpa [Json.Value.print, Json.Number.print, one] using object

theorem parse_of_accepting {text : String} {content : List Char} {token : String}
    (means : Means content token.toList)
    (spelled : text.toList =
      "\x7b\"success\":1,\"token\":\"".toList ++ (content ++ "\"\x7d".toList)) :
    Json.parse text =
      .ok (.object [("success", .number (.integer 1)), ("token", .string token)]) := by
  obtain ⟨start, members, document, of⟩ :=
    Json.ofText_of_isObject (spelled ▸ isObject_accepting means.isQuoted)
  have spell : members.Spell [("success", .number (.integer 1)), ("token", .string token)] := by
    cases of with
    | member opening after named real rest =>
      cases rest with
      | member opening' after' named' real' rest =>
        cases rest with
        | close stop =>
          refine .member opening after (named.means (Json.means_plain rfl)) ?_
            (.member opening' after' (named'.means (Json.means_plain rfl)) ?_ (.close stop))
          · exact real.natural (by decide)
          · exact real'.string means
  have before : "success" < "token" := by decide
  rw [Json.parse, Json.decode_of_ofText document, spell.value,
    Json.Value.ofMembers_of_sorted (List.pairwise_pair.2 before)]

end LoginReply

namespace Cli.Host

open Http Clients

def Delivers [Idna] (dialogue : Dialogue) (body : Bytes) : Prop :=
  ∃ request response, dialogue.getLast? = some (request, some response) ∧
    redirect? request response = none ∧ response.status.isSuccess = true ∧
    response.truncated = false ∧ response.body = body

structure Heard (body : Bytes) (result : ServerAnswer) : Prop where
  /-- It reads the repaired text, and fails just if this is no JSON. -/
  value : ∀ value, result = .ok value ↔ Json.parse (Text.decodeLossy body) = .ok value
  own : ∀ text, body = Text.utf8 text → Text.decodeLossy body = text
  ill : (∀ text, body ≠ Text.utf8 text) ↔ none ∈ Text.scalars none body
  inside : ∀ value, result = .ok value → ∀ before after,
    Text.scalars none body = before ++ none :: after → Json.Place.behind before = .inside
  /-- But a token may be spelled by any bytes: it is accepted as it is read after their repair. -/
  token : ∀ spelling token, body = LoginReply.accepting spelling → token ≠ "" →
    Json.Grammar.Means (Text.decodeLossy spelling).toList token.toList →
    Verdict.ofAnswer result = .accepted token

theorem heard_of_posted [Idna] {transport : Transport} {endpoint : String} {body : Json.Value}
    {dialogue : Dialogue} {result : ServerAnswer}
    (posted : Posted transport endpoint body dialogue result) {bytes : Bytes}
    (delivers : Delivers dialogue bytes) : Heard bytes result := by
  obtain ⟨request, response, last, here, success, complete, rfl⟩ := delivers
  have value (value : Json.Value) :
      result = .ok value ↔ Json.parse (Text.decodeLossy response.body) = .ok value := by
    rw [posted.brings]
    constructor
    · rintro ⟨request', response', last', -, -, -, parsed⟩
      cases last.symm.trans last'
      exact parsed
    · exact fun parsed => ⟨request, response, last, here, success, complete, parsed⟩
  refine ⟨value, ?_, Text.none_mem_scalars_iff.symm, ?_, ?_⟩
  · rintro text spelled
    rw [spelled, Text.decodeLossy_utf8]
  · exact fun found read before after ill => Json.inside_of_parse ((value found).1 read) ill
  · intro spelling token accepting filled means
    have parsed := LoginReply.parse_of_accepting means
      (accepting ▸ LoginReply.decodeLossy_accepting spelling)
    refine ofAnswer_eq_accepted.2 ⟨_, (value _).2 parsed, LoginReply.interpret_eq_accepted.2 ?_⟩
    exact .object rfl rfl filled

structure Repairs [Idna] (transport : Transport) : Prop where
  posted : ∀ {σ : Type} (server : Program.Handler Op Op.Answer σ) (endpoint : String)
    (body : Json.Value) (state : σ) (bytes : Bytes),
    let (result, _, dialogue) := (transport.post endpoint body).run (recording server) (state, [])
    Delivers dialogue bytes → Heard bytes result
  /-- A login stores the token of the value that it has read, if this accepts it. -/
  login : ∀ (store : Store) (request : LoginRequest) (host : Host) (bytes : Bytes),
    let (result, _, dialogue) := (transport.post Account.loginEndpoint request.body).run
      (recording Server.quiet) (host.server, [])
    Delivers dialogue bytes → Heard bytes result ∧
      ∃ progress after, execute (Console.ofClient transport store (Account.login request)) host =
          (some ((Verdict.ofAnswer result).outcome, progress), after) ∧
        ∀ token, Verdict.ofAnswer result = .accepted token →
          let stored := Store.call (Session.establishing token request.username) store host.machine
          let asked := Store.call (.get Session.usernameKey) stored.1.2 stored.2
          progress.store = asked.1.2 ∧ after.machine = asked.2

/-- A body is read as the text that it spells, with U+FFFD for each ill-formed stretch. -/
theorem repairs_bodies [Idna] (transport : Transport) : Repairs transport where
  posted server endpoint body state bytes delivers :=
    heard_of_posted (posted_post server transport endpoint body state) delivers
  login store request host bytes := by
    have recorded := View.execute_login_recorded transport ⟨store, false⟩ host.view request
    rw [view_server] at recorded
    generalize (transport.post Account.loginEndpoint request.body).run (recording Server.quiet)
      (host.server, []) = answered at recorded ⊢
    obtain ⟨result, server, dialogue⟩ := answered
    obtain ⟨posted, executed⟩ := recorded
    refine fun delivers => ⟨heard_of_posted posted delivers, ?_⟩
    cases verdict : Verdict.ofAnswer result with
    | accepted token =>
      obtain ⟨value, rfl, interprets⟩ := ofAnswer_eq_accepted.1 verdict
      rw [Account.conclude, interprets] at executed
      obtain ⟨after, ended, view⟩ := execute_of_view (executed.trans (View.execute_accept ..))
      refine ⟨_, after, ended, ?_⟩
      rintro _ ⟨⟩
      exact ⟨rfl, (congrArg View.machine view).trans (View.said_machine _ _)⟩
    | refused | unreachable =>
      obtain ⟨later, view, concluded, -⟩ :=
        View.execute_conclude transport ⟨store, false⟩ { host.view with server } request.username
          result
      rw [verdict] at concluded
      obtain ⟨after, ended, -⟩ := execute_of_view (executed.trans concluded)
      refine ⟨later, after, ended, ?_⟩
      rintro _ ⟨⟩

def final? [Idna] (dialogue : Dialogue) : Option Response :=
  dialogue.getLast?.bind fun entry =>
    entry.2.filter fun response => (redirect? entry.1 response).isNone

theorem delivers_of_final? [Idna] {dialogue : Dialogue} {response : Response}
    (final : final? dialogue = some response) (success : response.status.isSuccess = true)
    (complete : response.truncated = false) : Delivers dialogue response.body := by
  obtain ⟨⟨request, answer⟩, last, kept⟩ := Option.bind_eq_some_iff.1 final
  obtain ⟨rfl, here⟩ := Option.filter_eq_some_iff.1 kept
  exact ⟨request, response, last, Option.isNone_iff_eq_none.1 here, success, complete, rfl⟩

def garbling : Server :=
  ⟨true, true, [.respond ⟨.ok, [], LoginReply.accepting [0xFF], false⟩], []⟩

section

open scoped Idna

theorem login_altered_token :
    ∃ transport, Transport.ofAddress "http://h/" = .ok transport ∧
      (∀ text, LoginReply.accepting [0xFF] ≠ Text.utf8 text) ∧
      ∀ machine recorder, ∃ progress after, execute (Console.ofClient transport (.memory .empty)
          (Account.login ⟨"ana", "sun"⟩)) ⟨machine, garbling, [], "", [], recorder, none⟩ =
            (some (.established, progress), after) ∧
        progress.store = .memory (.ofList [("token", "\uFFFD"), ("username", "ana")]) := by
  have answered : ((Transport.ofAddress "http://h/").toOption.bind fun transport =>
      final? ((transport.post Account.loginEndpoint (LoginRequest.body ⟨"ana", "sun"⟩)).run
        (recording Server.quiet) (garbling, [])).2.2) =
      some ⟨.ok, [], LoginReply.accepting [0xFF], false, by decide, by decide⟩ := by decide +kernel
  obtain ⟨transport, address, final⟩ := Option.bind_eq_some_iff.1 answered
  have delivers := delivers_of_final? final rfl rfl
  have address : Transport.ofAddress "http://h/" = .ok transport := by
    cases read : Transport.ofAddress "http://h/" with
    | error error => rw [read] at address; cases address
    | ok other => rw [read] at address; cases address; rfl
  refine ⟨transport, address, ?_, fun machine recorder => ?_⟩
  · rw [Text.none_mem_scalars_iff.symm]
    decide
  obtain ⟨heard, progress, after, executed, stores⟩ := (repairs_bodies transport).login
    (.memory .empty) ⟨"ana", "sun"⟩ ⟨machine, garbling, [], "", [], recorder, none⟩ _ delivers
  have mark : (Text.decodeLossy [0xFF]).toList = ['\uFFFD'] := by decide
  have means : Json.Grammar.Means ['\uFFFD'] ['\uFFFD'] :=
    .plain (by decide) (by decide) (by decide) .nil
  have accepted := heard.token [0xFF] "\uFFFD" rfl (by decide) (mark ▸ means)
  rw [accepted] at executed
  exact ⟨progress, after, executed, (stores _ accepted).1⟩

end

end Cli.Host

end PracticeClient
