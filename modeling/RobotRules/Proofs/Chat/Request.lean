import RobotRules.Capability.Assistant
import RobotRules.Memory
import RobotRules.Proofs.Evaluation.Steps
import RobotRules.Proofs.Result
import RobotRules.Proofs.Value.Names

/-! What the chat service is sent: the instructions, the lines of the conversation in their
order, and the question. Each arrives as it is sent. -/

namespace RobotRules

/-- A line of a conversation: who says it, and what. -/
abbrev Line := Text × Text

namespace Line

def system (text : Text) : Line := ("system", text)

def user (text : Text) : Line := ("user", text)

def assistant (text : Text) : Line := ("assistant", text)

/-- The line as a turn that memory keeps. -/
def turn (line : Line) : Value := Memory.turn (.text line.1) (.text line.2)

/-- The line as a message to the chat service. -/
def message (line : Line) : Value := Chat.message (.text line.1) (.text line.2)

theorem pair?_turn (line : Line) : Chat.pair? line.turn = .ok (.text line.1, .text line.2) := rfl

theorem sent?_message (line : Line) : line.message.sent? = .ok line.message := by
  simp [message, Chat.message, Value.ofMembers, Value.sent?, Value.sentMembers?,
    Value.memberName?, Named.insert, Value.same, Value.sameScalar, bind,
    Except.bind, pure, Except.pure]

end Line

namespace Chat

theorem mapM_pair?_turn (lines : List Line) : (lines.map Line.turn).mapM pair? =
    .ok (lines.map fun line => (.text line.1, .text line.2)) := by
  rw [Result.mapM_eq_ok_iff, List.forall₂_map_left_iff, List.forall₂_map_right_iff,
    List.forall₂_same]
  exact fun line _ => line.pair?_turn

/-- The lines of a question: the instructions, the conversation, and the question. -/
def asking (instructions question : Text) (lines : List Line) : List Line :=
  .system instructions :: lines ++ [.user question]

theorem messages_eq (instructions question : Text) (lines : List Line) :
    messages instructions question (lines.map Line.turn) =
      .ok ((asking instructions question lines).map Line.message) := by
  rw [messages, mapM_pair?_turn, asking, List.map_append, List.map_cons]
  simp only [bind, Except.bind, List.map_map]
  rfl

theorem sentItems?_message (lines : List Line) :
    Value.sentItems? (lines.map Line.message) = .ok (lines.map Line.message) := by
  induction lines with
  | nil => rfl
  | cons line lines induction =>
      rw [List.map_cons, Value.sentItems?, line.sent?_message, induction]
      rfl

/-- The messages arrive whatever the model is called. -/
theorem member?_messages_of_sent? {model body : Value} {lines : List Line}
    (sent : (Value.ofMembers [("model", model), ("stream", .boolean false),
      ("messages", .list (lines.map Line.message))]).sent? = .ok body) :
    member? "messages" body = .ok (.list (lines.map Line.message)) := by
  simp only [Value.ofMembers, List.map_cons, List.map_nil, Value.sent?, Value.sentMembers?,
    Value.memberName?, sentItems?_message] at sent
  cases modelSent : model.sent? with
  | error failure =>
      rw [modelSent] at sent
      cases sent
  | ok model' =>
      rw [modelSent] at sent
      rw [← Except.ok.inj sent]
      rfl

/-- A request holds the lines of its question. -/
theorem member?_messages_of_request {client : Client} {question : Text} {lines : List Line}
    {request : Request} (formed : client.request question (lines.map Line.turn) = .ok request) :
    member? "messages" request.body =
      .ok (.list ((asking client.instructions question lines).map Line.message)) := by
  unfold Client.request at formed
  rw [messages_eq] at formed
  rcases Result.bind_eq_ok_iff.mp formed with ⟨messages, isMessages, formed⟩
  cases isMessages
  by_cases unwritable : (!client.token.isWritable) = true
  · rw [if_pos unwritable] at formed
    cases formed
  rw [if_neg unwritable] at formed
  rcases Result.bind_eq_ok_iff.mp formed with ⟨_, _, formed⟩
  rcases Result.bind_eq_ok_iff.mp formed with ⟨_, _, formed⟩
  rcases Result.bind_eq_ok_iff.mp formed with ⟨body, sent, formed⟩
  rcases Result.bind_eq_ok_iff.mp formed with ⟨_, _, formed⟩
  rw [← Except.ok.inj formed]
  exact member?_messages_of_sent? sent

/-- A client can send requests to an address, whatever it asks. -/
structure Client.Reaches (client : Client) (address : Address) : Prop where
  available : client.isAvailable = true
  writable : client.token.isWritable = true
  tokenAscii : Service.needAscii ("Bearer ".toList ++ client.token.display) = .ok ()
  found : client.locate client.address = .ok address
  placeAscii : Service.needAscii address.place = .ok ()
  modelSent : ∃ model, client.model.sent? = .ok model

/-- Every conversation can be sent then, and what comes of it is read from the reply. -/
theorem ask_eq_read {client : Client} {address : Address} (reaches : client.Reaches address)
    (question : Text) (lines : List Line) (replies : Replies) :
    (ask client question (lines.map Line.turn) replies).1 = read address replies.next.1 := by
  rcases reaches.modelSent with ⟨model, modelSent⟩
  have formed : ∃ body, client.request question (lines.map Line.turn) =
      .ok ⟨address, authorization address ("Bearer ".toList ++ client.token.display), body⟩ := by
    simp only [Client.request, messages_eq, reaches.writable, reaches.found, reaches.tokenAscii,
      reaches.placeAscii, Value.ofMembers, List.map_cons, List.map_nil, Value.sent?,
      Value.sentMembers?, Value.memberName?, sentItems?_message, modelSent, bind, Except.bind,
      pure, Except.pure]
    exact ⟨_, rfl⟩
  rcases formed with ⟨body, formed⟩
  simp only [ask, reaches.available, formed]
  rfl

end Chat

/-- A question takes a reply and leaves a note of its request, whatever comes of it. -/
theorem Assistant.complete_eq (question : Text) (turns : List Value) (world : World) :
    let asked := Chat.ask (.ofConfig world.config.assistant) question turns world.replies
    Assistant.complete question turns world = Act.give asked.1
      { world with
        replies := asked.2.2
        requests := world.requests ++ asked.2.1.toList } := by
  rcases asked : Chat.ask (.ofConfig world.config.assistant) question turns world.replies with
    ⟨result, request, replies⟩
  rw [complete, Act.get_bind]
  dsimp only
  rw [asked]
  cases result <;> rfl

end RobotRules
