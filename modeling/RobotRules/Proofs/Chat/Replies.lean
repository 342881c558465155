import RobotRules.Capability.Registry
import RobotRules.Proofs.Chat.Request
import RobotRules.Proofs.Evaluation.Steps
import RobotRules.Proofs.Json.RoundTrip

/-! What comes of a question, whatever the chat service replies. There is an answer, or the
chat service is at fault and the assistant apologizes. Only one kind of reply is neither: one
whose first answer has a message that is no dictionary, or a content that is no text. Such a
reply makes the question fail in another way, which the assistant does not catch. -/

namespace RobotRules

namespace Chat

/-- There is an answer, or the chat service has none. -/
def IsSettled (outcome : Except Failure Text) : Prop :=
  (∃ answer, outcome = .ok answer) ∨ ∃ error, outcome = .error (.chat error)

/-- A message that is given but does not hold a text: it is no dictionary, or its content is
given and is no text. -/
def IsGarbled (message : Value) : Prop :=
  message.isGiven = true ∧ ∀ content, member? "content" message = .ok content →
    content.isGiven = true ∧ ∀ text, content ≠ .text text

/-- The first answer in a body has a garbled message. -/
def Garbles (body : Value) : Prop :=
  ∃ choice others message, member? "choices" body = .ok (.list (choice :: others)) ∧
    member? "message" choice = .ok message ∧ IsGarbled message

/-- Either the outcome is settled, or the cause is met and the failure is that something is
asked for what its type does not offer. -/
def SettledUnless (cause : Prop) (outcome : Except Failure Text) : Prop :=
  (IsSettled outcome ∧ ¬cause) ∨ (outcome = .error .notOffered ∧ cause)

namespace SettledUnless

variable {cause : Prop} {outcome : Except Failure Text}

theorem of_answer (answer : Text) (apart : ¬cause) : SettledUnless cause (.ok answer) :=
  .inl ⟨.inl ⟨answer, rfl⟩, apart⟩

theorem of_error (error : ChatError) (apart : ¬cause) :
    SettledUnless cause (.error (.chat error)) :=
  .inl ⟨.inr ⟨error, rfl⟩, apart⟩

theorem congr {other : Prop} (settled : SettledUnless cause outcome) (same : cause ↔ other) :
    SettledUnless other outcome :=
  propext same ▸ settled

theorem failed (settled : SettledUnless cause outcome) (met : cause) :
    outcome = .error .notOffered := by
  rcases settled with ⟨_, apart⟩ | ⟨failed, _⟩
  · exact absurd met apart
  · exact failed

end SettledUnless

theorem exists_member?_dict (name : Text) (members : List (Value × Value)) :
    ∃ value, member? name (.dict members) = .ok value := ⟨_, rfl⟩

/-- The content of a message that is given holds a text, or the message is garbled. -/
theorem settledUnless_text {message content : Value} (given : message.isGiven = true)
    (found : member? "content" message = .ok content) :
    SettledUnless (IsGarbled message) (match orElse content (.text []) with
      | .text content => return Text.trim content
      | _ => throw .notOffered) := by
  have garbled : IsGarbled message ↔ content.isGiven = true ∧ ∀ text, content ≠ .text text := by
    simp only [IsGarbled, given, found, Except.ok.injEq, forall_eq', true_and]
  apply SettledUnless.congr _ garbled.symm
  by_cases isContent : content.isGiven = true
  · have taken : orElse content (.text []) = content := if_pos isContent
    rw [taken]
    cases content with
    | text characters => exact .of_answer _ fun ⟨_, apart⟩ => apart characters rfl
    | _ => exact .inr ⟨rfl, isContent, nofun⟩
  · have nothing : orElse content (.text []) = .text [] := if_neg isContent
    rw [nothing]
    exact .of_answer _ fun ⟨also, _⟩ => isContent also

theorem settledUnless_content (message : Value) : SettledUnless (IsGarbled message) (do
    match orElse (← member? "content" (orElse message (.dict []))) (.text []) with
    | .text content => return Text.trim content
    | _ => throw .notOffered) := by
  by_cases given : message.isGiven = true
  · rw [orElse, if_pos given]
    cases message with
    | dict members =>
        rcases exists_member?_dict "content" members with ⟨content, found⟩
        have settled := settledUnless_text given found
        rw [found]
        exact settled
    | _ => exact .inr ⟨rfl, given, nofun⟩
  · rw [orElse, if_neg given]
    exact .of_answer _ fun ⟨also, _⟩ => given also

theorem garbles_iff {body choice message : Value} {others : List Value}
    (listed : member? "choices" body = .ok (.list (choice :: others)))
    (found : member? "message" choice = .ok message) : Garbles body ↔ IsGarbled message := by
  constructor
  · rintro ⟨choice', others', message', listed', found', garbled⟩
    rw [listed] at listed'
    cases listed'
    rw [found] at found'
    cases found'
    exact garbled
  · exact fun garbled => ⟨choice, others, message, listed, found, garbled⟩

/-- A body without answers is told from one whose first answer is garbled. -/
theorem settledUnless_answer? (body : Value) : SettledUnless (Garbles body) (answer? body) := by
  cases body with
  | dict members =>
      rcases exists_member?_dict "choices" members with ⟨choices, listed⟩
      have taken : (Named.find? (.text "choices") members).getD .absent = choices :=
        Except.ok.inj listed
      have unlisted : (∀ entries others, choices ≠ .list (.dict entries :: others)) →
          ¬Garbles (.dict members) := by
        rintro none ⟨choice, others, message, listed', found, _⟩
        rw [listed, Except.ok.injEq] at listed'
        cases choice with
        | dict entries => exact none entries others listed'
        | _ => cases found
      unfold answer?
      dsimp only
      rw [taken]
      rcases choices with _ | _ | _ | _ | _ | _ | ⟨_ | ⟨choice, others⟩⟩ | _ | _
      case list.cons =>
        cases choice with
        | dict entries =>
            rcases exists_member?_dict "message" entries with ⟨message, found⟩
            have settled := settledUnless_content message
            apply SettledUnless.congr _ (garbles_iff listed found).symm
            dsimp only
            rw [found]
            exact settled
        | _ => exact .of_error _ (unlisted nofun)
      all_goals exact .of_error _ (unlisted nofun)
  | _ =>
      refine .of_error _ ?_
      rintro ⟨choice, others, message, missing, _⟩
      cases missing

/-- The reply is a response that would answer, but garbles its answer. -/
def IsGarbling (reply : Reply) : Prop :=
  ∃ body text json, reply = .response 200 body ∧ Json.bodyText? body = some text ∧
    Json.read text = .ok json ∧ Garbles json.toValue

theorem isGarbling_iff {body text : Text} {json : Json}
    (spelled : Json.bodyText? body = some text) (isJson : Json.read text = .ok json) :
    IsGarbling (.response 200 body) ↔ Garbles json.toValue := by
  constructor
  · rintro ⟨body', text', json', same, spelled', isJson', garbles⟩
    cases same
    rw [spelled] at spelled'
    cases spelled'
    rw [isJson] at isJson'
    cases isJson'
    exact garbles
  · exact fun garbles => ⟨body, text, json, rfl, spelled, isJson, garbles⟩

theorem settledUnless_read {address : Address} (whole : address.isAbsolute = true)
    (reply : Reply) : SettledUnless (IsGarbling reply) (read address reply) := by
  cases reply with
  | unreachable reason => exact .of_error _ (by simp [IsGarbling])
  | response status body =>
      have taken : Service.needWhole address = .ok () := if_pos whole
      simp only [read, taken, bind, Except.bind]
      by_cases good : status = 200
      · rw [if_neg (not_not_intro good)]
        subst good
        cases spelled : Json.bodyText? body with
        | none => exact .of_error _ (by simp [IsGarbling, spelled])
        | some text =>
            dsimp only
            cases isJson : Json.read text with
            | error error => exact .of_error _ (by simp [IsGarbling, spelled, isJson])
            | ok json =>
                exact (settledUnless_answer? _).congr (isGarbling_iff spelled isJson).symm
      · rw [if_pos good]
        exact .of_error _ (by simp [IsGarbling, good])

/-- A client that is told where to send its questions, and by whom, can send them there. -/
def Client.CanSend (client : Client) : Prop :=
  client.isAvailable = true →
    ∃ address, client.Reaches address ∧ address.isAbsolute = true

theorem settledUnless_ask {client : Client} (canSend : client.CanSend) (question : Text)
    (lines : List Line) (replies : Replies) :
    SettledUnless (client.isAvailable = true ∧ IsGarbling replies.next.1)
      (ask client question (lines.map Line.turn) replies).1 := by
  by_cases available : client.isAvailable = true
  · rcases canSend available with ⟨address, reaches, whole⟩
    rw [ask_eq_read reaches]
    apply (settledUnless_read whole replies.next.1).congr
    exact (and_iff_right available).symm
  · have unasked : (ask client question (lines.map Line.turn) replies).1 =
        .error (.chat .unavailable) := by
      rw [ask, if_pos (by simpa using available)]
    rw [unasked]
    exact .of_error _ fun met => available met.1

end Chat

namespace Assistant

variable {world : World} {lines : List Line} {question : Text}

theorem exists_turnsBefore_eq (question : Text) (lines : List Line) :
    ∃ before : List Line, turnsBefore question (lines.map Line.turn) = before.map Line.turn := by
  unfold turnsBefore
  split
  · split_ifs
    · exact ⟨lines.dropLast, (List.map_dropLast ..).symm⟩
    · exact ⟨lines, rfl⟩
  · exact ⟨lines, rfl⟩

theorem exists_attempt_complete (question : Text) (turns : List Value) (world : World) :
    ∃ after, World.attempt (complete question turns) world =
      .ok (Chat.ask (.ofConfig world.config.assistant) question turns world.replies).1 after := by
  rw [World.attempt, complete_eq]
  cases (Chat.ask (.ofConfig world.config.assistant) question turns world.replies).1 <;>
    exact ⟨_, rfl⟩

/-- The prompt is a question that can be asked. -/
def Asks (prompt : Value) : Prop :=
  ∃ question, prompt = .text question ∧ ¬Text.isBlank question = true

/-- The answer is given, an apology takes the place of a failure of the chat service, and what
fails in another way makes the question fail. -/
structure Comes (outcome : Except Failure Text) (result : EStateM.Result Failure World Value) :
    Prop where
  answered : ∀ {answer}, outcome = .ok answer → ∃ after, result = .ok (.text answer) after
  excused : ∀ {error}, outcome = .error (.chat error) →
    ∃ after, result = .ok (.text unavailable) after
  failed : outcome = .error .notOffered → ∃ after, result = .error .notOffered after

theorem comes_ask (visible : ¬Text.isBlank question = true) (world : World) :
    Comes (Chat.ask (.ofConfig world.config.assistant) question
      (turnsBefore question world.memory.turns) world.replies).1 (ask (.text question) world) := by
  rcases exists_attempt_complete question (turnsBefore question world.memory.turns) world with
    ⟨after, completed⟩
  unfold ask
  simp only [visible]
  rw [if_neg Bool.false_ne_true, Act.get_bind, Act.bind_of_ok _ completed]
  constructor
  case answered =>
    rintro answer answered
    rw [answered]
    exact ⟨_, rfl⟩
  case excused =>
    rintro error failed
    rw [failed]
    exact ⟨_, rfl⟩
  case failed =>
    rintro failed
    rw [failed]
    exact ⟨_, rfl⟩

/-- Without a question, it is a question that is asked for. -/
theorem exists_ask_of_not_asks {prompt : Value} (nothing : ¬Asks prompt) (world : World) :
    ∃ after, ask prompt world = .ok (.text noQuestion) after := by
  cases prompt with
  | text question =>
      have blank : Text.isBlank question = true := by
        by_contra visible
        exact nothing ⟨question, rfl, visible⟩
      unfold ask
      simp only [blank]
      exact ⟨_, rfl⟩
  | _ => exact ⟨_, rfl⟩

/-- Exactly a garbled answer keeps a question from being answered and from being apologized
for, as long as questions can be sent at all. -/
theorem survives_unless_garbling {client : Chat.Client} (canSend : client.CanSend) :
    (∀ question (lines : List Line) replies,
      Chat.SettledUnless (client.isAvailable = true ∧ Chat.IsGarbling replies.next.1)
        (Chat.ask client question (lines.map Line.turn) replies).1) ∧
    ∀ prompt world (lines : List Line), Chat.Client.ofConfig world.config.assistant = client →
      world.memory.turns = lines.map Line.turn →
      ((∃ text after, ask prompt world = .ok (.text text) after) ∧
          ¬(Asks prompt ∧ client.isAvailable = true ∧ Chat.IsGarbling world.replies.next.1)) ∨
        ((∃ after, ask prompt world = .error .notOffered after) ∧
          Asks prompt ∧ client.isAvailable = true ∧ Chat.IsGarbling world.replies.next.1) := by
  refine ⟨Chat.settledUnless_ask canSend, fun prompt world lines isClient turns => ?_⟩
  by_cases asks : Asks prompt
  · rcases asks with ⟨question, rfl, visible⟩
    rcases exists_turnsBefore_eq question lines with ⟨before, isBefore⟩
    have comes := comes_ask visible world
    rw [turns, isBefore, isClient] at comes
    rcases Chat.settledUnless_ask canSend question before world.replies with
      ⟨⟨answer, answered⟩ | ⟨error, failed⟩, apart⟩ | ⟨failed, met⟩
    · rcases comes.answered answered with ⟨after, done⟩
      exact .inl ⟨⟨answer, after, done⟩, fun met => apart met.2⟩
    · rcases comes.excused failed with ⟨after, done⟩
      exact .inl ⟨⟨unavailable, after, done⟩, fun met => apart met.2⟩
    · exact .inr ⟨comes.failed failed, ⟨question, rfl, visible⟩, met⟩
  · rcases exists_ask_of_not_asks asks world with ⟨after, done⟩
    exact .inl ⟨⟨noQuestion, after, done⟩, fun ⟨also, _⟩ => asks also⟩

section Garbling

/-- A body whose message is a text. -/
def garbled : Json :=
  .object [(Text.points "choices", .list [.object [(Text.points "message", "hi")]])]

/-- With the standard settings and a token, and a chat service that replies so. -/
def garbling : World :=
  World.fresh { assistant := { token := "token" } } (Robot.idle [] [] false)
    [.response 200 (Json.write garbled)]

theorem canSend_garbling : (Chat.Client.ofConfig garbling.config.assistant).CanSend := by
  intro _
  refine ⟨⟨"https", [], "router.huggingface.co", none, "/v1/chat/completions", none, none⟩,
    ⟨by decide +kernel, by decide +kernel, ?_, ?_, ?_, _, rfl⟩, by decide +kernel⟩ <;>
  · rw [← Result.toOption_eq_some_iff]
    decide +kernel

theorem isWritable_garbled : garbled.IsWritable := by
  have single : ∀ {name : Text} {value : Json}, value.IsWritable →
      Json.IsWritable (.object [(name.points, value)]) := by
    intro name value writable
    apply Json.IsWritable.object
    · exact ⟨by simpa using Json.isSettled_points name, by simp⟩
    · simpa using writable
  exact single (.list (by simpa using single (Json.isWritable_ofText "hi")))

/-- The chat service is available, and the reply that it has ready garbles its answer. -/
theorem garbles_garbling :
    (Chat.Client.ofConfig garbling.config.assistant).isAvailable = true ∧
      Chat.IsGarbling garbling.replies.next.1 := by
  have spelled : Json.bodyText? (Json.write garbled) = some (Json.write garbled) := by
    decide +kernel
  have garbles : Chat.Garbles garbled.toValue :=
    ⟨.ofMembers [("message", .text "hi")], [], .text "hi", rfl, rfl, rfl, nofun⟩
  exact ⟨by decide, _, _, _, rfl, spelled, Json.read_write isWritable_garbled, garbles⟩

theorem survives_unless_garbling_unreachable :
    (Chat.Client.ofConfig garbling.config.assistant).CanSend ∧
      (∀ question (lines : List Line),
        (Chat.ask (.ofConfig garbling.config.assistant) question (lines.map Line.turn)
          garbling.replies).1 = .error .notOffered) ∧
      ∀ prompt reason, ∃ text after, ask prompt
        { garbling with replies := [.unreachable reason] } = .ok (.text text) after := by
  have survives := survives_unless_garbling canSend_garbling
  refine ⟨canSend_garbling, fun question lines => ?_, fun prompt reason => ?_⟩
  · exact (survives.1 question lines garbling.replies).failed garbles_garbling
  · rcases survives.2 prompt { garbling with replies := [.unreachable reason] } [] rfl rfl with
      ⟨spoken, _⟩ | ⟨_, _, _, _, _, _, missing, _⟩
    · exact spoken
    · cases missing

/-- The message of the reply is a text instead of a dictionary. The question fails, and not
because the chat service does. -/
theorem not_survives_garbling :
    (Chat.ask (.ofConfig garbling.config.assistant) "hi" [] garbling.replies).1 =
        .error .notOffered ∧
      ∃ after, ask (.text "hi") garbling = .error .notOffered after := by
  have failed : (Chat.ask (.ofConfig garbling.config.assistant) "hi" [] garbling.replies).1 =
      .error .notOffered :=
    (Chat.settledUnless_ask canSend_garbling "hi" [] garbling.replies).failed garbles_garbling
  have visible : ¬Text.isBlank "hi" = true := by decide
  exact ⟨failed, (comes_ask visible garbling).failed failed⟩

end Garbling

end Assistant

end RobotRules
