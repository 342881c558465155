import Mathlib.Data.List.Basic
import Mathlib.Logic.Function.Iterate
import RobotRules.Check.Command
import RobotRules.Proofs.Capability.Management

/-! A dry run of rules. Nothing that the rules do keeps it from running all of its ticks, and it
writes a line on each. It comes to its end unless the final report cannot order the names of the
parameters. -/

namespace RobotRules

/-- What the robot hears is noted without failure. -/
theorem Event.exists_hear_eq (text language : Text) (world : World) :
    ∃ after, Event.hear text language world = .ok () after := by
  rcases World.askRecognizer?_setListening world with ⟨asked, after, done, _⟩
  rw [Event.hear, Act.bind_of_ok _ done]
  cases text with
  | nil => exact ⟨_, rfl⟩
  | cons c rest => exact ⟨_, rfl⟩

namespace Engine

theorem hear_fst (text : Text) (reported : Option Text) (detection : Language.Detection)
    (engine : Engine) : (engine.hear text reported detection).1 = .ok () := by
  rcases Event.exists_hear_eq text (Event.languageOf text reported detection) engine.world with
    ⟨after, done⟩
  rw [hear, act, done]

theorem act_cleanup_fst (engine : Engine) : (engine.act World.cleanup).1 = .ok () := by
  rw [act, World.cleanup_eq]

/-- Retiring the capabilities does not change memory. -/
theorem memory_act_cleanup (engine : Engine) :
    (engine.act World.cleanup).2.world.memory = engine.world.memory := by
  have spared := World.spares_cleanup (by decide : Part.conversation ≠ .registry) (by decide)
    engine.world
  rw [World.cleanup_eq] at spared
  rw [act, World.cleanup_eq]
  exact spared.stays.2.1

end Engine

/-! What can be written. Half of a surrogate pair cannot; rules and what is heard consist of
characters, but settings and the replies of the chat service may spell such a half. -/

namespace Json

mutual
/-- Whether all that a value spells are characters. -/
def isWhole : Json → Bool
  | .string points => points.text?.isSome
  | .list items => areWhole items
  | .object members => areWholeMembers members
  | _ => true

def areWhole : List Json → Bool
  | [] => true
  | item :: rest => item.isWhole && areWhole rest

def areWholeMembers : List (Points × Json) → Bool
  | [] => true
  | (name, value) :: rest => name.text?.isSome && value.isWhole && areWholeMembers rest
end

end Json

/-- Whether a reply spells nothing but characters, as far as it can be read. -/
def Reply.isWhole : Reply → Bool
  | .unreachable _ => true
  | .response _ body => (Json.bodyPoints? body).all fun points =>
    points.text?.any fun text => (Json.read text).toOption.all Json.isWhole

/-- Half of a pair is spelled by an escape. -/
example : Reply.isWhole (.response 200 "[\"\\ud83d\"]") = false := by decide +kernel

namespace Check

/-! The final report. -/

theorem place_perm (entry : Value × Value) (placed : Named Value) :
    (place entry placed).Perm (entry :: placed) := by
  induction placed with
  | nil => exact .refl _
  | cons other rest induction =>
      rw [place]
      split_ifs
      · exact (induction.cons other).trans (.swap entry other rest)
      · exact .refl _

/-- The final report leaves out no parameter and adds none. -/
theorem inOrder_perm (state : Named Value) : (inOrder state).Perm state := by
  have placed : ∀ placed : Named Value,
      (state.foldl (fun placed entry => place entry placed) placed).Perm (state ++ placed) := by
    induction state with
    | nil => exact fun placed => .refl placed
    | cons entry rest induction =>
        intro placed
        have behind := (place_perm entry placed).append_left rest
        exact ((induction (place entry placed)).trans behind).trans List.perm_middle
  have all := placed []
  rw [List.append_nil] at all
  exact (List.reverse_perm _).trans all

/-- The lines on the parameters after a trial. -/
def finalLines (memory : Memory) : List Text :=
  rulesLine "Final state:" ::
    (inOrder memory.current).map fun (name, value) => stateLine name value

/-! The ticks. -/

/-- The lines on ticks one after the other, the first of which has a number. -/
def courseLines (number ticks : Nat) (start : Engine) : List Text :=
  (List.range ticks).flatMap fun tick =>
    tickLines (number + tick) (Engine.tick^[tick] start) (Engine.tick^[tick + 1] start)

theorem runTicks_eq (number ticks : Nat) (start : Engine) :
    runTicks number start ticks = (courseLines number ticks start, Engine.tick^[ticks] start) := by
  induction ticks generalizing number start with
  | zero => rfl
  | succ ticks induction =>
      rw [runTicks, induction, courseLines, courseLines, List.range_succ_eq_map,
        List.flatMap_cons, List.flatMap_map]
      simp only [Function.iterate_succ_apply, Function.iterate_zero_apply, Nat.add_zero,
        Nat.succ_eq_add_one, Nat.add_assoc, Nat.add_comm 1]

theorem trialLines_eq (text : Text) (config : Config) (asr : Option Text) (ticks : Nat)
    (replies : Replies) :
    let start := prepared asr (trialEngine text config replies)
    let memory := (Engine.tick^[ticks] start).world.memory
    trialLines text config asr ticks replies =
      if areComparable (memory.current.map Prod.fst) then
        .ok (courseLines 1 ticks start ++ finalLines memory)
      else .error .wrongType := by
  intro start memory
  simp only [trialLines, runTicks_eq, Engine.memory_act_cleanup, sortState]
  unfold memory start
  split_ifs with ordered
  · exact congrArg Except.ok (List.append_assoc _ _ _)
  · rfl

/-! The command. -/

/-- A dry run: the log can be set up, and rules that can be read from a file are tried out for a
number of ticks. Neither the settings nor the chat service spell half of a character. -/
structure DryRun (arguments : Arguments) (surroundings : Surroundings) (loaded : Config.Loaded)
    (path text : Text) (ticks : Int) : Prop where
  isLocal : arguments.remote = false
  log : Config.setUpLog surroundings.hasLog (arguments.logLevel.elim .null .ofText) = .ok ()
  ticks : arguments.ticks = some ticks
  loads : Config.load surroundings.configFile surroundings.environment = .ok loaded
  settings : loaded.config.toJson.isWhole = true
  replies : surroundings.chatReplies.all Reply.isWhole = true
  names : rulesPath? arguments loaded.config = .ok path
  reads : Rule.readFile path surroundings.files = .ok (.ok text)
  rules : (Rule.parseAll text).1 ≠ []

/-- The lines on the rules that were read. -/
def rulesLines (arguments : Arguments) (loaded : Config.Loaded) (path text : Text) : List Text :=
  let rules := (Rule.parseAll text).1
  loaded.warning?.toList ++ [rulesLine ("Reading " ++ path)] ++ [parsedLine text rules] ++
    if arguments.render then [Rule.renderAll rules] else numbered 1 rules

theorem DryRun.check_eq {arguments : Arguments} {surroundings : Surroundings}
    {loaded : Config.Loaded} {path text : Text} {ticks : Int}
    (run : DryRun arguments surroundings loaded path text ticks) :
    check arguments surroundings =
      if ticks ≤ 0 then .ok (.ofLines (rulesLines arguments loaded path text) 0)
      else
        (trialLines text loaded.config arguments.asr ticks.toNat
          surroundings.chatReplies).map fun lines =>
            .ofLines (rulesLines arguments loaded path text ++ lines) 0 := by
  have source : readSource arguments loaded.config surroundings =
      .ok (rulesLine ("Reading " ++ path), .ok text) := by
    rw [readSource, if_neg (by simp [run.isLocal]), run.names]
    change (Rule.readFile path surroundings.files >>= _) = _
    rw [run.reads]
    rfl
  have found : (Rule.parseAll text).1.isEmpty = false := by
    rw [List.isEmpty_eq_false_iff]
    exact run.rules
  rw [check, run.log]
  change (Config.load surroundings.configFile surroundings.environment >>= _) = _
  rw [run.loads]
  change (readSource arguments loaded.config surroundings >>= _) = _
  rw [source]
  change (if (Rule.parseAll text).1.isEmpty then _ else _) = _
  rw [found, if_neg (by decide), run.ticks]
  change (if ticks ≤ 0 then _ else _) = _
  by_cases none : ticks ≤ 0
  · rw [if_pos none, if_pos none]
    rfl
  · rw [if_neg none, if_neg none]
    cases trialLines text loaded.config arguments.asr ticks.toNat surroundings.chatReplies <;> rfl

/-- A dry run goes through all of its ticks, whatever the rules do in them, and writes the lines on
each. Only the final report can fail: it does just if the parameters have names of different
kinds, and otherwise tells of all parameters. -/
theorem check_dryRun {arguments : Arguments} {surroundings : Surroundings}
    {loaded : Config.Loaded} {path text : Text} {ticks : Int}
    (run : DryRun arguments surroundings loaded path text ticks) :
    let opening := trialEngine text loaded.config surroundings.chatReplies
    let start := prepared arguments.asr opening
    let last := Engine.tick^[ticks.toNat] start
    let state := last.world.memory.current
    let lines := rulesLines arguments loaded path text
    (∀ heard, (opening.seed.hear heard (some trialLanguage) none).1 = .ok ()) ∧
      (last.act World.cleanup).1 = .ok () ∧
      (inOrder state).Perm state ∧
      check arguments surroundings =
        if ticks ≤ 0 then .ok (.ofLines lines 0)
        else if areComparable (state.map Prod.fst) then
          .ok (.ofLines (lines ++
            (courseLines 1 ticks.toNat start ++ finalLines last.world.memory)) 0)
        else .error .wrongType := by
  intro opening start last state lines
  refine ⟨fun heard => Engine.hear_fst _ _ _ _, Engine.act_cleanup_fst last, inOrder_perm state, ?_⟩
  rw [run.check_eq, trialLines_eq]
  split_ifs
  · rfl
  · rfl
  · rfl

section Lamp

/-- A rule file that switches on a lamp. -/
def lamp : Text := "[[\"a\" == \"a\" --> Memory.setStateParam(\"lamp\", \"on\")]]"

/-- A folder with one file of rules. -/
def around (text : Text) : Surroundings :=
  { files := Folder.read [("r.txt", text)]
    configFile := none
    environment := []
    locate := Service.address?
    rulesReply := .unreachable []
    chatReplies := []
    hasLog := false }

def twoTicks : Arguments :=
  { path := some "r.txt".toList, ticks := some 2, asr := some "hi".toList }

theorem dryRun_lamp : DryRun twoTicks (around lamp) ⟨{}, none⟩ "r.txt" lamp 2 where
  isLocal := rfl
  log := rfl
  ticks := rfl
  loads := rfl
  settings := rfl
  replies := rfl
  names := rfl
  reads := rfl
  rules := by decide

theorem check_dryRun_lamp : DryRun twoTicks (around lamp) ⟨{}, none⟩ "r.txt" lamp 2 ∧
    check twoTicks (around lamp) = .ok (.ofLines
      (["[Rules] Reading r.txt", "[Rules] Parsed 1 rules (0 skipped)",
        "  1. [\"a\" == \"a\" --> Memory.setStateParam(\"lamp\", \"on\")]",
        "[Tick 1] interactionState='asrReceived'", "[Tick 2] interactionState='asrReceived'",
        "[Rules] Final state:", "    asrLanguage = 'en-US'",
        "    conversationHistory = [('user', 'hi')]", "    interactionState = 'asrReceived'",
        "    lamp = 'on'", "    lastAsrResult = 'hi'"].map String.toList) 0) := by
  refine ⟨dryRun_lamp, (check_dryRun dryRun_lamp).2.2.2.trans ?_⟩
  rw [if_neg (by decide), if_pos (by decide +kernel)]
  exact congrArg Except.ok (by decide +kernel)

/-- A rule file that writes a parameter under the value of one that was never written. -/
def nameless : Text :=
  "[[\"a\" == \"a\" --> Memory.setStateParam(Memory.getStateParam(\"x\"), \"y\")]]"

def oneTick : Arguments := { path := some "r.txt".toList, ticks := some 1 }

theorem dryRun_nameless : DryRun oneTick (around nameless) ⟨{}, none⟩ "r.txt" nameless 1 where
  isLocal := rfl
  log := rfl
  ticks := rfl
  loads := rfl
  settings := rfl
  replies := rfl
  names := rfl
  reads := rfl
  rules := by decide

/-- Such a parameter stands beside the state of the interaction, whose name is a text. -/
theorem not_check_nameless : DryRun oneTick (around nameless) ⟨{}, none⟩ "r.txt" nameless 1 ∧
    (∀ place ∈ ({} : Config).robot.locations, place.toValue.kind = .text) ∧
    run ["r.txt".toList, "--ticks".toList, "1".toList] (around nameless) = .error .wrongType := by
  refine ⟨dryRun_nameless, by decide, ?_⟩
  change check oneTick (around nameless) = _
  rw [dryRun_nameless.check_eq, trialLines_eq, if_neg (by decide), if_neg (by decide +kernel)]
  rfl

end Lamp

end Check

end RobotRules
