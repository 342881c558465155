import RobotRules.Proofs.Expr.Canonical
import RobotRules.Rule.Bundled
import RobotRules.Rule.Parser

/-! The rules that come with the engine, as trees. Their text is read as these rules, and
without a warning. -/

namespace RobotRules

/-- The texts of a block: its condition and its actions. -/
def Block.texts (block : Block) : Text × List Text :=
  (Text.trim block.condition, Nesting.splitActions block.actions)

namespace Rule

/-- Texts that are read as the condition and the actions of a rule. -/
structure ReadsFrom (rule : Rule) (texts : Text × List Text) : Prop where
  condition : Expr.parse texts.1 = .ok rule.condition
  actions : List.Forall₂ (fun text action => Expr.parse text = .ok action)
    texts.2 rule.actions
  nonempty : rule.actions ≠ []

theorem ReadsFrom.parse {rule : Rule} {block : Block} (reads : rule.ReadsFrom block.texts) :
    parse block.condition block.actions = .ok rule := by
  have condition : Expr.parse block.condition = .ok rule.condition :=
    (Expr.parse_trim block.condition).symm.trans reads.condition
  have actions : (Nesting.splitActions block.actions).mapM Expr.parse = .ok rule.actions :=
    Result.mapM_eq_ok_iff.mpr reads.actions
  rw [Rule.parse, condition, actions]
  simp [bind, Except.bind, pure, Except.pure, reads.nonempty]

theorem ofBlocks_of_readsFrom {blocks : List Block} {rules : List Rule}
    (reads : List.Forall₂ ReadsFrom rules (blocks.map Block.texts)) :
    ofBlocks blocks = (rules, []) := by
  induction blocks generalizing rules with
  | nil =>
      cases reads
      rfl
  | cons block blocks induction =>
      rcases reads with _ | ⟨first, others⟩
      rw [ofBlocks, induction others, first.parse]

/-- The condition and the actions of a rule, as they are rendered. -/
def renderings (rule : Rule) : Text × List Text :=
  (rule.condition.render, rule.actions.map Expr.render)

theorem readsFrom_renderings {rule : Rule} (condition : Expr.Canonical rule.condition)
    (actions : ∀ action ∈ rule.actions, Expr.Canonical action)
    (nonempty : rule.actions ≠ []) : rule.ReadsFrom rule.renderings where
  condition := Expr.parse_render condition
  actions := by
    rw [renderings, List.forall₂_map_left_iff, List.forall₂_same]
    exact fun action member => Expr.parse_render (actions action member)
  nonempty := nonempty

end Rule

end RobotRules

namespace RobotRules.Bundled

open RobotRules.Expr (Canonical Derives IsName)

/-! The parts of the rules. -/

/-- The parameter of a name. -/
def reading (name : Text) : Expr := .call "Memory" "getStateParam" [.literal name]

def heard : Expr := reading "lastAsrResult"

/-- The interaction is in a state. -/
def stateIs (state : Text) : Expr := .equals (reading "interactionState") (.literal state)

/-- An utterance was heard that matches a pattern. -/
def heardLike (pattern : Text) : Expr := .and (stateIs "asrReceived") (.matching pattern heard)

def saying (text : Expr) : Expr := .call "TTS" "speak" [text]

def setting (name : Text) (value : Expr) : Expr :=
  .call "Memory" "setStateParam" [.literal name, value]

def entering (state : Text) : Expr := setting "interactionState" (.literal state)

/-- The utterances that ask for a drive to a place. -/
def destinationPattern : Text := "go to \x7bplace\x7d"

def greeting : Text :=
  "Hello, I am listening. Ask me to go somewhere or to list my locations."

/-! The rules. -/

/-- Greets and listens. -/
def greet : Rule :=
  ⟨stateIs "Active",
    [saying (.literal greeting), entering "listening", .call "ASR" "listen" []]⟩

/-- Takes down where to drive. -/
def depart : Rule :=
  ⟨heardLike destinationPattern,
    [saying (.literal "Okay"), setting "destination" (.capture destinationPattern heard 0),
      entering "navigating"]⟩

/-- Drives to the place that was taken down. -/
def drive : Rule :=
  ⟨stateIs "navigating",
    [saying (.literal "On my way"), .call "Move" "goToLocation" [reading "destination"],
      entering "idle"]⟩

/-- Names the places. -/
def namePlaces : Rule :=
  ⟨heardLike "*locations*",
    [saying (.call "Locations" "listLocations" []), entering "idle"]⟩

/-- Raises the head. -/
def lookUp : Rule :=
  ⟨.or (heardLike "look up") (heardLike "head up"),
    [saying (.literal "Looking up"), .call "TiltHead" "up" [], entering "idle"]⟩

/-- Drives home. -/
def goHome : Rule :=
  ⟨heardLike "go home",
    [saying (.literal "Going home"), .call "Move" "goHome" [], entering "idle"]⟩

/-- Hands what was heard to the assistant. -/
def consult : Rule :=
  ⟨stateIs "asrReceived", [saying (.call "Assistant" "ask" [heard]), entering "idle"]⟩

def rules : List Rule := [greet, depart, drive, namePlaces, lookUp, goHome, consult]

/-! Their text. -/

theorem canonical_reading {name : Text} (unquoted : '"' ∉ name) : Canonical (reading name) :=
  .call ⟨by decide, by decide, by decide⟩ ⟨by decide, by decide, by decide⟩
    (by simpa using .literal unquoted)

theorem canonical_heard : Canonical heard := canonical_reading (by decide)

theorem canonical_stateIs {state : Text} (unquoted : '"' ∉ state) :
    Canonical (stateIs state) :=
  .equals (canonical_reading (by decide)) (.literal unquoted) trivial trivial

theorem canonical_heardLike {pattern : Text} (unquoted : '"' ∉ pattern) :
    Canonical (heardLike pattern) :=
  .and (canonical_stateIs (by decide))
    (.matching unquoted canonical_heard) trivial trivial

theorem canonical_saying {text : Expr} (canonical : Canonical text) :
    Canonical (saying text) :=
  .call ⟨by decide, by decide, by decide⟩ ⟨by decide, by decide, by decide⟩
    (by simpa using canonical)

theorem canonical_entering {state : Text} (unquoted : '"' ∉ state) :
    Canonical (entering state) :=
  .call ⟨by decide, by decide, by decide⟩ ⟨by decide, by decide, by decide⟩
    (by simpa using ⟨.literal (by decide), .literal unquoted⟩)

/-- How the place to drive to is taken down: a capture of number zero can be written
without its number. -/
def takeDownText : Text :=
  "Memory.setStateParam(\"destination\", ExtractParam(\"go to \x7bplace\x7d\", " ++
    "Memory.getStateParam(\"lastAsrResult\")))"

/-- Characters are at hand only if a literal is known to be made of them. -/
theorem toList_eq_of_eq_ofList {literal : String} {characters : List Char}
    (equal : literal = String.ofList characters) : literal.toList = characters := by
  rw [equal, String.toList_ofList]

set_option maxRecDepth 20000 in
theorem texts_bundledText :
    (Block.ofText (Block.stripOuter Rule.bundledText)).map Block.texts =
      [greet.renderings,
        (depart.condition.render,
          [(saying (.literal "Okay")).render, takeDownText, (entering "navigating").render]),
        drive.renderings, namePlaces.renderings, lookUp.renderings, goHome.renderings,
        consult.renderings] := by
  simp only [Rule.bundledText, Rule.bundledLines, List.map_cons, List.map_nil,
    String.toList_append, greet, depart, drive, namePlaces, lookUp, goHome, consult,
    Rule.renderings, heardLike, stateIs, heard, reading, saying, entering, setting]
  delta greeting destinationPattern takeDownText
  simp (disch := exact rfl) only [toList_eq_of_eq_ofList]
  decide +kernel

theorem parse_takeDownText : Expr.parse takeDownText =
    .ok (setting "destination" (.capture destinationPattern heard 0)) := by
  have heardDerived : Derives .disjunction heard.render heard :=
    Expr.derives_render canonical_heard (Expr.fits_disjunction heard)
  have captured : Derives .primary
      (Expr.applied captureName ['"' :: destinationPattern ++ ['"'], ' ' :: heard.render])
      (.capture destinationPattern heard 0) :=
    .capture (.literal (by decide)) heardDerived.behind_space
  have name : Derives .primary ('"' :: "destination".toList ++ ['"']) (.literal "destination") :=
    .literal (by decide)
  let arguments : List (Text × Expr) :=
    [('"' :: "destination".toList ++ ['"'], .literal "destination"),
      (' ' :: Expr.applied captureName
          ['"' :: destinationPattern ++ ['"'], ' ' :: heard.render],
        .capture destinationPattern heard 0)]
  have each : ∀ argument ∈ arguments, Derives .disjunction argument.1 argument.2 := by
    simp only [arguments, List.forall_mem_cons]
    exact ⟨name.of_primary, captured.of_primary.behind_space, by simp⟩
  have isReceiver : IsName "Memory" := ⟨by decide, by decide, by decide⟩
  have isMethod : IsName "setStateParam" := ⟨by decide, by decide, by decide⟩
  have derived := Derives.call (Expr.callHead_of_names isReceiver isMethod)
    (List.cons_ne_nil _ _) each
  have text : takeDownText = Expr.applied ("Memory" ++ '.' :: "setStateParam".toList)
      (arguments.map Prod.fst) := by
    decide +kernel
  rw [text]
  exact Expr.parse_of_derives derived

theorem readsFrom_depart : depart.ReadsFrom (depart.condition.render,
    [(saying (.literal "Okay")).render, takeDownText, (entering "navigating").render]) where
  condition := Expr.parse_render (canonical_heardLike (by decide))
  actions := .cons (Expr.parse_render (canonical_saying (.literal (by decide))))
    (.cons parse_takeDownText
      (.cons (Expr.parse_render (canonical_entering (by decide))) .nil))
  nonempty := List.cons_ne_nil _ _

/-- A call without arguments. -/
theorem canonical_command {receiver method : Text} (isReceiver : IsName receiver)
    (isMethod : IsName method) : Canonical (.call receiver method []) :=
  .call isReceiver isMethod (by simp)

theorem readsFrom_greet : greet.ReadsFrom greet.renderings := by
  refine Rule.readsFrom_renderings (canonical_stateIs (by decide)) ?_ (List.cons_ne_nil _ _)
  simp only [greet, List.forall_mem_cons, List.not_mem_nil, false_implies, implies_true, and_true]
  exact ⟨canonical_saying (.literal (by decide +kernel)), canonical_entering (by decide),
    canonical_command ⟨by decide, by decide, by decide⟩ ⟨by decide, by decide, by decide⟩⟩

theorem readsFrom_drive : drive.ReadsFrom drive.renderings := by
  refine Rule.readsFrom_renderings (canonical_stateIs (by decide)) ?_ (List.cons_ne_nil _ _)
  simp only [drive, List.forall_mem_cons, List.not_mem_nil, false_implies, implies_true, and_true]
  exact ⟨canonical_saying (.literal (by decide)),
    .call ⟨by decide, by decide, by decide⟩ ⟨by decide, by decide, by decide⟩
      (by simpa using canonical_reading (by decide)),
    canonical_entering (by decide)⟩

theorem readsFrom_namePlaces : namePlaces.ReadsFrom namePlaces.renderings := by
  refine Rule.readsFrom_renderings (canonical_heardLike (by decide)) ?_ (List.cons_ne_nil _ _)
  simp only [namePlaces, List.forall_mem_cons, List.not_mem_nil, false_implies, implies_true,
    and_true]
  exact ⟨canonical_saying (canonical_command ⟨by decide, by decide, by decide⟩
      ⟨by decide, by decide, by decide⟩), canonical_entering (by decide)⟩

theorem readsFrom_lookUp : lookUp.ReadsFrom lookUp.renderings := by
  refine Rule.readsFrom_renderings (.or (canonical_heardLike (by decide))
    (canonical_heardLike (by decide)) trivial) ?_ (List.cons_ne_nil _ _)
  simp only [lookUp, List.forall_mem_cons, List.not_mem_nil, false_implies, implies_true, and_true]
  exact ⟨canonical_saying (.literal (by decide)),
    canonical_command ⟨by decide, by decide, by decide⟩ ⟨by decide, by decide, by decide⟩,
    canonical_entering (by decide)⟩

theorem readsFrom_goHome : goHome.ReadsFrom goHome.renderings := by
  refine Rule.readsFrom_renderings (canonical_heardLike (by decide)) ?_ (List.cons_ne_nil _ _)
  simp only [goHome, List.forall_mem_cons, List.not_mem_nil, false_implies, implies_true, and_true]
  exact ⟨canonical_saying (.literal (by decide)),
    canonical_command ⟨by decide, by decide, by decide⟩ ⟨by decide, by decide, by decide⟩,
    canonical_entering (by decide)⟩

theorem readsFrom_consult : consult.ReadsFrom consult.renderings := by
  refine Rule.readsFrom_renderings (canonical_stateIs (by decide)) ?_ (List.cons_ne_nil _ _)
  simp only [consult, List.forall_mem_cons, List.not_mem_nil, false_implies, implies_true, and_true]
  exact ⟨canonical_saying (.call ⟨by decide, by decide, by decide⟩
      ⟨by decide, by decide, by decide⟩ (by simpa using canonical_heard)),
    canonical_entering (by decide)⟩

/-- The rules are read from their text, without a warning. -/
theorem parseAll_bundledText : Rule.parseAll Rule.bundledText = (rules, []) := by
  refine Rule.ofBlocks_of_readsFrom ?_
  rw [texts_bundledText]
  exact .cons readsFrom_greet (.cons readsFrom_depart (.cons readsFrom_drive
    (.cons readsFrom_namePlaces (.cons readsFrom_lookUp (.cons readsFrom_goHome
      (.cons readsFrom_consult .nil))))))

end RobotRules.Bundled
