import AgentFuel.Backend.Decoder
import AgentFuel.Backend.Parser
import Mathlib.Data.Bool.AllAny

/-!
# The logs of an invocation tree

The runtime brackets the lines of every program between an `invoke` line and a terminator.
The text of a `log` line is chosen by the program. The parser attributes every event to its
program exactly if the bracket it takes to be innermost was opened for that program.
-/
namespace AgentFuel.Backend

open Encodings

/-- A key in base 58. -/
structure ProgramId where
  text : Text
  chars : ∀ c ∈ text, c ∈ base58Alphabet.chars
  long : 32 ≤ text.length

/-- What a program logs itself, or the runtime on its behalf. -/
inductive Line where
  | log (text : Text)
  | data (slices : List Binary)
  | returned (program : ProgramId) (bytes : Binary)
  | consumed (program : ProgramId) (text : Text)

inductive Ending where
  | success
  | failed (reason : Text)

/-- What happens from some point on while a program is executing. -/
inductive Body where
  | done
  | emit (line : Line) (rest : Body)
  | invoke (callee : ProgramId) (body : Body) (ending : Ending) (rest : Body)

/-- A top-level instruction. -/
structure Call where
  program : ProgramId
  body : Body
  ending : Ending

/-! ### Rendering -/

/-- The slices of a data line, in base 64. -/
def dataText (slices : List Binary) : Text := [' '].intercalate (slices.map base64)

/-- A line that starts with `Program`, one word and a space. -/
def programLine (word after : Text) : Text := "Program ".toList ++ (word ++ ' ' :: after)

def Line.text : Line → Text
  | log text => programLine "log:".toList text
  | data slices => programLine "data:".toList (dataText slices)
  | returned program bytes => programLine "return:".toList (program.text ++ ' ' :: base64 bytes)
  | consumed program text => programLine program.text ("consumed ".toList ++ text)

def invokeText (program : ProgramId) (depth : Nat) : Text :=
  programLine program.text ("invoke ".toList ++ '[' :: ((toString depth).toList ++ [']']))

def Ending.text (program : ProgramId) : Ending → Text
  | success => programLine program.text "success".toList
  | failed reason => programLine program.text ("failed: ".toList ++ reason)

/-- The slices that a data line carries. -/
def Line.slices : Line → Option (List Binary)
  | data slices => some slices
  | _ => none

/-- A log line, the program it is about and the slices of a data line. -/
structure LogLine where
  program : ProgramId
  text : Text
  slices : Option (List Binary)

/-- What the parser takes a line for. -/
def LogLine.opens (line : LogLine) : Option Text := parseInvoke line.text

def LogLine.closes (line : LogLine) : Bool := parseTerminator line.text

def LogLine.owner (line : LogLine) : Text := line.program.text

/-- An invocation around the lines of its body. -/
def bracketed (program : ProgramId) (depth : Nat) (inner : List LogLine) (ending : Ending) :
    List LogLine :=
  ⟨program, invokeText program depth, none⟩ :: inner ++ [⟨program, ending.text program, none⟩]

def Body.lines (program : ProgramId) (depth : Nat) : Body → List LogLine
  | done => []
  | emit line rest => ⟨program, line.text, line.slices⟩ :: rest.lines program depth
  | invoke callee body ending rest =>
    bracketed callee (depth + 1) (body.lines callee (depth + 1)) ending ++ rest.lines program depth

def Call.lines (call : Call) : List LogLine :=
  bracketed call.program 1 (call.body.lines call.program 1) call.ending

/-- The log of a transaction. -/
def transactionLog (calls : List Call) : List LogLine := calls.flatMap Call.lines

/-- A delivered transaction with the log of these calls, in either of the two shapes. -/
structure Carries (tx : Json String) (calls : List Call) : Prop where
  signed : signatureOf tx ≠ ""
  logged : logMessages tx =
    some ((transactionLog calls).map fun line => .str (String.ofList line.text))

/-! ### The events of a tree -/

section Emissions

variable (discriminator : EventName → Vector UInt8 8)

/-- The event that a data line decodes to. -/
def sliceEvent (slices : List Binary) : Option (DecodedEvent String) := do
  let raw ← ofBase64 (Text.trim (dataText slices))
  (decode discriminator raw).toOption.join

def LogLine.event (line : LogLine) : Option (DecodedEvent String) :=
  line.slices.bind (sliceEvent discriminator)

/-- The events a program and its callees emit, each with its emitter. -/
def Body.emissions (program : ProgramId) : Body → List (Text × DecodedEvent String)
  | done => []
  | emit line rest =>
    ((line.slices.bind (sliceEvent discriminator)).map fun event => (program.text, event)).toList ++
      rest.emissions program
  | invoke callee body _ rest => body.emissions callee ++ rest.emissions program

def emissions (calls : List Call) : List (Text × DecodedEvent String) :=
  calls.flatMap fun call => call.body.emissions discriminator call.program

end Emissions

/-! ### The lines as the parser reads them -/

theorem ProgramId.no_space (program : ProgramId) : ' ' ∉ program.text := by
  have outside : ' ' ∉ base58Alphabet.chars := by decide +kernel
  exact fun inside => outside (program.chars _ inside)

theorem parseInvoke_word {word : Text} (oneWord : ' ' ∉ word) (after : Text) :
    parseInvoke (programLine word after) =
      if "invoke ".toList.isPrefixOf after then some word else none := by
  unfold parseInvoke programLine
  rw [Text.stripPrefix_append, Option.bind_eq_bind, Option.bind_some,
    Text.splitOnce_append oneWord, Option.bind_eq_bind, Option.bind_some]

theorem parseTerminator_word {word : Text} (oneWord : ' ' ∉ word) (after : Text) :
    parseTerminator (programLine word after) =
      (after = "success".toList || "failed:".toList.isPrefixOf after) := by
  unfold parseTerminator programLine
  rw [Text.stripPrefix_append]
  dsimp only
  rw [Text.splitOnce_append oneWord]

/-- An `invoke` line opens a bracket. -/
theorem parseInvoke_invokeText (program : ProgramId) (depth : Nat) :
    parseInvoke (invokeText program depth) = some program.text := by
  have invokes : "invoke ".toList.isPrefixOf
      ("invoke ".toList ++ '[' :: ((toString depth).toList ++ [']'])) = true := by
    rw [List.isPrefixOf_iff_prefix]
    exact List.prefix_append _ _
  rw [invokeText, parseInvoke_word program.no_space, if_pos invokes]

/-- A text behind the first word of a line that makes the line neither an invocation nor a
terminator. -/
def Harmless (after : Text) : Prop :=
  ¬"invoke ".toList <+: after ∧ after ≠ "success".toList ∧ ¬"failed:".toList <+: after

instance (after : Text) : Decidable (Harmless after) := by
  unfold Harmless
  infer_instance

theorem parseInvoke_harmless {word after : Text} (oneWord : ' ' ∉ word)
    (harmless : Harmless after) : parseInvoke (programLine word after) = none := by
  rw [parseInvoke_word oneWord, if_neg]
  rw [List.isPrefixOf_iff_prefix]
  exact harmless.1

theorem parseTerminator_harmless {word after : Text} (oneWord : ' ' ∉ word)
    (harmless : Harmless after) : parseTerminator (programLine word after) = false := by
  rw [parseTerminator_word oneWord, Bool.or_eq_false_iff]
  refine ⟨decide_eq_false harmless.2.1, ?_⟩
  rw [Bool.eq_false_iff, ne_eq, List.isPrefixOf_iff_prefix]
  exact harmless.2.2

/-- Lengths and colons tell the first word of a text from those of the bracket texts. -/
theorem harmless_of_word {after : Text} (invoke : (Text.firstWord after).length ≠ 6)
    (success : (Text.firstWord after).length ≠ 7) (failed : ':' ∉ Text.firstWord after) :
    Harmless after := by
  refine ⟨?_, ?_, ?_⟩
  · rintro ⟨rest, rfl⟩
    have word : "invoke ".toList ++ rest = "invoke".toList ++ ' ' :: rest := rfl
    rw [word, Text.firstWord_space (by decide)] at invoke
    exact invoke rfl
  · rintro rfl
    rw [Text.firstWord_of_word (by decide)] at success
    exact success rfl
  · rintro ⟨rest, rfl⟩
    rw [Text.firstWord_append (by decide)] at failed
    exact failed (List.mem_append_left _ (by decide))

theorem ProgramId.no_colon (program : ProgramId) : ':' ∉ program.text := by
  have outside : ':' ∉ base58Alphabet.chars := by decide +kernel
  exact fun inside => outside (program.chars _ inside)

theorem not_mem_base64 {c : Char} (outside : c ∉ base64Alphabet.chars ∧ c ≠ '=')
    (bytes : List UInt8) : c ∉ base64 bytes := by
  intro inside
  rcases base64_chars bytes c inside with letter | pad
  · exact outside.1 letter
  · exact outside.2 pad

/-- The first slice of a data line is its first word. -/
theorem firstWord_dataText (slices : List Binary) :
    Text.firstWord (dataText slices) = ((slices.map base64).head?).getD [] := by
  have oneWord : ∀ bytes, ' ' ∉ base64 bytes := not_mem_base64 (by decide +kernel)
  match slices with
  | [] => rfl
  | [bytes] =>
    have single : dataText [bytes] = base64 bytes := by simp [dataText]
    rw [single, Text.firstWord_of_word (oneWord bytes)]
    rfl
  | bytes :: next :: rest =>
    have several : dataText (bytes :: next :: rest) = base64 bytes ++ ' ' :: dataText (next :: rest) := by
      simp [dataText, List.intercalate]
    rw [several, Text.firstWord_space (oneWord bytes)]
    rfl

theorem harmless_data (slices : List Binary) : Harmless (dataText slices) := by
  have word : ∃ bytes, Text.firstWord (dataText slices) = base64 bytes := by
    rw [firstWord_dataText]
    cases slices with
    | nil => exact ⟨[], rfl⟩
    | cons bytes => exact ⟨bytes, rfl⟩
  obtain ⟨bytes, word⟩ := word
  have groups := base64_length bytes
  apply harmless_of_word
  · rw [word]
    omega
  · rw [word]
    omega
  · rw [word]
    exact not_mem_base64 (by decide +kernel) bytes

theorem harmless_returned (program : ProgramId) (bytes : Binary) :
    Harmless (program.text ++ ' ' :: base64 bytes) := by
  have word := Text.firstWord_space program.no_space (base64 bytes)
  have long := program.long
  apply harmless_of_word
  · rw [word]
    omega
  · rw [word]
    omega
  · rw [word]
    exact program.no_colon

theorem harmless_consumed (text : Text) : Harmless ("consumed ".toList ++ text) := by
  have split : "consumed ".toList ++ text = "consumed".toList ++ ' ' :: text := rfl
  have word : Text.firstWord ("consumed ".toList ++ text) = "consumed".toList := by
    rw [split, Text.firstWord_space (by decide)]
  apply harmless_of_word
  · rw [word]
    decide
  · rw [word]
    decide
  · rw [word]
    decide

/-! ### The events of the lines -/

section Events

variable {discriminator : EventName → Vector UInt8 8}

theorem lineEvent_of_dataEvent {line : Text} (none' : dataEvent discriminator line = none) :
    lineEvent discriminator line = none := by
  unfold lineEvent
  cases parseInvoke line with
  | some => rfl
  | none =>
    rw [none']
    exact ite_self none

/-- A text that ends in one word and a space. -/
theorem append_word {whole start word : Text} (shape : whole = start ++ (word ++ [' ']))
    (after : Text) : whole ++ after = start ++ (word ++ ' ' :: after) := by
  rw [shape, List.append_assoc, List.append_assoc, List.singleton_append]

theorem dataLine_eq (after : Text) :
    "Program data: ".toList ++ after = programLine "data:".toList after :=
  append_word (by decide) after

theorem programLine_word {word other : Text} (oneWord : ' ' ∉ word) (oneWord' : ' ' ∉ other)
    {after more : Text} (same : programLine word after = programLine other more) : word = other := by
  have rests := List.append_cancel_left same
  have first := Text.firstWord_space oneWord after
  rw [rests, Text.firstWord_space oneWord' more] at first
  exact first.symm

/-- Only a line that starts with `Program data: ` has an event. -/
theorem lineEvent_of_word {word : Text} (oneWord : ' ' ∉ word) (other : word ≠ "data:".toList)
    (after : Text) : lineEvent discriminator (programLine word after) = none := by
  apply lineEvent_of_dataEvent
  cases found : Text.stripPrefix "Program data: ".toList (programLine word after) with
  | none =>
    unfold dataEvent
    rw [found]
    rfl
  | some rest =>
    have same := Text.stripPrefix_eq_some found
    have data := same.trans (dataLine_eq rest)
    exact absurd (programLine_word oneWord (by decide) data) other

theorem lineEvent_program (program : ProgramId) (after : Text) :
    lineEvent discriminator (programLine program.text after) = none := by
  apply lineEvent_of_word program.no_space
  intro same
  have long := program.long
  rw [same] at long
  exact absurd long (by decide)

/-- The parser reads off a line the event that it carries. -/
theorem lineEvent_text (line : Line) :
    lineEvent discriminator line.text = line.slices.bind (sliceEvent discriminator) := by
  cases line with
  | log text => exact lineEvent_of_word (by decide) (by decide) text
  | returned program bytes => exact lineEvent_of_word (by decide) (by decide) _
  | consumed program text => exact lineEvent_program program _
  | data slices =>
    have oneWord : ' ' ∉ "data:".toList := by decide
    have neither := parseTerminator_harmless oneWord (harmless_data slices)
    unfold lineEvent
    rw [Line.text, parseInvoke_harmless oneWord (harmless_data slices), neither]
    dsimp only
    rw [if_neg Bool.false_ne_true, ← dataLine_eq, dataEvent, Text.stripPrefix_append]
    cases bytes : ofBase64 (Text.trim (dataText slices)) with
    | none => simp [Line.slices, sliceEvent, bytes]
    | some raw =>
      cases decodes : decode discriminator raw with
      | error => simp [Line.slices, sliceEvent, bytes, decodes, Except.toOption]
      | ok decoded => simp [Line.slices, sliceEvent, bytes, decodes, Except.toOption]

theorem lineEvent_bracketed (program : ProgramId) (depth : Nat) {inner : List LogLine}
    (ending : Ending) (reads : ∀ line ∈ inner, lineEvent discriminator line.text = line.event discriminator) :
    ∀ line ∈ bracketed program depth inner ending,
      lineEvent discriminator line.text = line.event discriminator := by
  have ends : lineEvent discriminator (ending.text program) = none := by
    cases ending with
    | success => exact lineEvent_program program _
    | failed reason => exact lineEvent_program program _
  intro line member
  rw [bracketed, List.mem_append, List.mem_cons, List.mem_singleton] at member
  rcases member with (rfl | inside) | rfl
  · exact lineEvent_program program _
  · exact reads line inside
  · exact ends

theorem lineEvent_lines (program : ProgramId) (depth : Nat) (body : Body) :
    ∀ line ∈ body.lines program depth,
      lineEvent discriminator line.text = line.event discriminator := by
  induction body generalizing program depth with
  | done => simp [Body.lines]
  | emit line rest ih =>
    rw [Body.lines, List.forall_mem_cons]
    exact ⟨lineEvent_text line, ih program depth⟩
  | invoke callee body ending rest ihBody ihRest =>
    rw [Body.lines, List.forall_mem_append]
    exact ⟨lineEvent_bracketed callee (depth + 1) ending (ihBody callee (depth + 1)),
      ihRest program depth⟩

theorem lineEvent_transactionLog (calls : List Call) :
    ∀ line ∈ transactionLog calls,
      lineEvent discriminator line.text = line.event discriminator := by
  intro line member
  obtain ⟨call, -, inside⟩ := List.mem_flatMap.mp member
  exact lineEvent_bracketed _ _ _ (lineEvent_lines _ _ _) line inside

theorem owned_bracketed (program : ProgramId) (depth : Nat) (inner : List LogLine)
    (ending : Ending) :
    Brackets.owned (LogLine.event discriminator) LogLine.owner (bracketed program depth inner ending) =
      Brackets.owned (LogLine.event discriminator) LogLine.owner inner := by
  rw [bracketed, List.cons_append, Brackets.owned_cons, Brackets.owned_append]
  exact List.append_nil _

/-- The events of the lines are those of the tree. -/
theorem owned_lines (program : ProgramId) (depth : Nat) (body : Body) :
    Brackets.owned (LogLine.event discriminator) LogLine.owner (body.lines program depth) =
      body.emissions discriminator program := by
  induction body generalizing program depth with
  | done => rfl
  | emit line rest ih =>
    rw [Body.lines, Brackets.owned_cons, Body.emissions, ih program depth]
    rfl
  | invoke callee body ending rest ihBody ihRest =>
    rw [Body.lines, Brackets.owned_append, ihRest program depth, Body.emissions, owned_bracketed,
      ihBody callee (depth + 1)]

theorem owned_transactionLog (calls : List Call) :
    Brackets.owned (LogLine.event discriminator) LogLine.owner (transactionLog calls) =
      emissions discriminator calls := by
  induction calls with
  | nil => rfl
  | cons call calls ih =>
    rw [transactionLog, List.flatMap_cons, Brackets.owned_append, Call.lines, owned_bracketed,
      owned_lines, emissions, List.flatMap_cons]
    exact congrArg _ ih

/-! ### The parser on a transaction -/

/-- The parser attributes the events by the brackets it sees. -/
theorem parseOne_eq {tx : Json String} {calls : List Call}
    (carries : Carries tx calls) :
    parseOne discriminator tx = numbered (signatureOf tx) (slotOf tx) 0
      (Brackets.attributed LogLine.opens LogLine.closes (LogLine.event discriminator) []
        (transactionLog calls)) := by
  have texts : ((((transactionLog calls).map fun line =>
      Json.str (String.ofList line.text)).filterMap Json.asStr).map String.toList) =
      (transactionLog calls).map LogLine.text := by
    simp [Function.comp_def, Json.asStr, List.filterMap_map]
  rw [parseOne, if_neg carries.signed, carries.logged]
  dsimp only
  rw [texts, foldl_readLine, Brackets.attributed_map]
  have marks : Brackets.attributed LogLine.opens LogLine.closes
      (fun line => lineEvent discriminator line.text) [] (transactionLog calls) =
      Brackets.attributed LogLine.opens LogLine.closes (LogLine.event discriminator) []
        (transactionLog calls) :=
    Brackets.attributed_congr (lineEvent_transactionLog calls) []
  exact congrArg (numbered (signatureOf tx) (slotOf tx) 0) marks

/-! ### Transactions whose log texts cannot be misread -/

def Line.Plain : Line → Prop
  | log text => Harmless text
  | _ => True

/-- No program logs a text that looks like a bracket. -/
def Body.Plain : Body → Prop
  | done => True
  | emit line rest => line.Plain ∧ rest.Plain
  | invoke _ body _ rest => body.Plain ∧ rest.Plain

theorem push_plain {line : Line} (plain : line.Plain) (program : ProgramId) (stack : List Text) :
    Brackets.push LogLine.opens LogLine.closes stack
      ⟨program, line.text, line.slices⟩ = stack := by
  have neither : parseInvoke line.text = none ∧ parseTerminator line.text = false := by
    cases line with
    | log text =>
      have oneWord : ' ' ∉ "log:".toList := by decide
      exact ⟨parseInvoke_harmless oneWord plain, parseTerminator_harmless oneWord plain⟩
    | data slices =>
      have oneWord : ' ' ∉ "data:".toList := by decide
      have harmless := harmless_data slices
      exact ⟨parseInvoke_harmless oneWord harmless, parseTerminator_harmless oneWord harmless⟩
    | returned program bytes =>
      have oneWord : ' ' ∉ "return:".toList := by decide
      have harmless := harmless_returned program bytes
      exact ⟨parseInvoke_harmless oneWord harmless, parseTerminator_harmless oneWord harmless⟩
    | consumed program text =>
      have harmless := harmless_consumed text
      exact ⟨parseInvoke_harmless program.no_space harmless,
        parseTerminator_harmless program.no_space harmless⟩
  simp [Brackets.push, LogLine.opens, LogLine.closes, neither]

theorem push_invoke (program owner : ProgramId) (depth : Nat) (stack : List Text) :
    Brackets.push LogLine.opens LogLine.closes stack ⟨owner, invokeText program depth, none⟩ =
      program.text :: stack := by
  simp only [Brackets.push, LogLine.opens, parseInvoke_invokeText]

theorem ending_closes (program : ProgramId) (ending : Ending) :
    parseInvoke (ending.text program) = none ∧ parseTerminator (ending.text program) = true := by
  cases ending with
  | success =>
    have other : ¬("invoke ".toList.isPrefixOf "success".toList = true) := by decide
    have same : decide ("success".toList = "success".toList) = true := decide_eq_true rfl
    unfold Ending.text
    rw [parseInvoke_word program.no_space, if_neg other, parseTerminator_word program.no_space,
      same, Bool.true_or]
    exact ⟨rfl, rfl⟩
  | failed reason =>
    have start : "failed: ".toList ++ reason = "failed:".toList ++ ' ' :: reason := rfl
    have found : "failed:".toList.isPrefixOf ("failed: ".toList ++ reason) = true := by
      rw [start, List.isPrefixOf_iff_prefix]
      exact List.prefix_append _ _
    have other : ¬("invoke ".toList.isPrefixOf ("failed: ".toList ++ reason) = true) := by
      -- The two words differ in their first letter.
      intro invokes
      have first : 'i' = 'f' := by
        obtain ⟨rest, same⟩ := List.isPrefixOf_iff_prefix.mp invokes
        exact (List.cons.inj same).1
      exact absurd first (by decide)
    unfold Ending.text
    rw [parseInvoke_word program.no_space, if_neg other, parseTerminator_word program.no_space,
      found, Bool.or_true]
    exact ⟨rfl, rfl⟩

theorem push_ending (program owner : ProgramId) (ending : Ending) (stack : List Text) :
    Brackets.push LogLine.opens LogLine.closes stack ⟨owner, ending.text program, none⟩ =
      stack.tail := by
  obtain ⟨plain, closed⟩ := ending_closes program ending
  simp only [Brackets.push, LogLine.opens, LogLine.closes, plain, closed, if_true]

/-- An invocation puts its program on top of the stack for the lines of its body. -/
theorem attributed_bracketed (program : ProgramId) (depth : Nat) (inner : List LogLine)
    (ending : Ending) {stack : List Text}
    (kept : Brackets.run LogLine.opens LogLine.closes (program.text :: stack) inner =
      program.text :: stack) :
    Brackets.attributed LogLine.opens LogLine.closes (LogLine.event discriminator) stack
        (bracketed program depth inner ending) =
      Brackets.attributed LogLine.opens LogLine.closes (LogLine.event discriminator) (program.text :: stack) inner ∧
    Brackets.run LogLine.opens LogLine.closes stack (bracketed program depth inner ending) =
      stack := by
  constructor
  · rw [bracketed, List.cons_append, ← List.singleton_append, Brackets.attributed_append,
      Brackets.attributed_append, Brackets.run_cons, push_invoke]
    have opening : Brackets.attributed LogLine.opens LogLine.closes (LogLine.event discriminator) stack
        [⟨program, invokeText program depth, none⟩] = [] := by cases stack <;> rfl
    have closing : ∀ below, Brackets.attributed LogLine.opens LogLine.closes (LogLine.event discriminator) below
        [⟨program, ending.text program, none⟩] = [] := fun below => by cases below <;> rfl
    rw [opening, closing, List.append_nil]
    rfl
  · rw [bracketed, List.cons_append, Brackets.run_cons, push_invoke, Brackets.run_append, kept,
      Brackets.run_cons, push_ending]
    rfl

variable (discriminator) in
/-- Plain lines are read as the tree has them, and leave the stack as it is. -/
theorem attributed_plain {body : Body} (plain : body.Plain) (program : ProgramId) (depth : Nat)
    (stack : List Text) :
    Brackets.attributed LogLine.opens LogLine.closes (LogLine.event discriminator) (program.text :: stack)
        (body.lines program depth) = body.emissions discriminator program ∧
      Brackets.run LogLine.opens LogLine.closes (program.text :: stack)
        (body.lines program depth) = program.text :: stack := by
  -- By induction on the body: a line leaves the stack, and a call puts back what it pushes.
  induction body generalizing program depth stack with
  | done => exact ⟨rfl, rfl⟩
  | emit line rest ih =>
    obtain ⟨plain, others⟩ := plain
    obtain ⟨found, kept⟩ := ih others program depth stack
    have pushed : Brackets.push LogLine.opens LogLine.closes (program.text :: stack)
        ⟨program, line.text, line.slices⟩ = program.text :: stack := push_plain plain program _
    rw [Body.lines, Body.emissions, Brackets.run_cons, pushed]
    refine ⟨?_, kept⟩
    rcases Option.eq_none_or_eq_some (line.slices.bind (sliceEvent discriminator)) with
      event | ⟨decoded, event⟩
    · have unmarked : LogLine.event discriminator ⟨program, line.text, line.slices⟩ = none := event
      rw [Brackets.attributed_unmarked unmarked, pushed, found, event]
      rfl
    · have marked : LogLine.event discriminator ⟨program, line.text, line.slices⟩ = some decoded :=
        event
      rw [Brackets.attributed_marked marked, pushed, found, event]
      rfl
  | invoke callee body ending rest ihBody ihRest =>
    obtain ⟨inside, insideKept⟩ := ihBody plain.1 callee (depth + 1) (program.text :: stack)
    obtain ⟨found, kept⟩ := ihRest plain.2 program depth stack
    obtain ⟨called, calledKept⟩ := attributed_bracketed callee (depth + 1) _ ending insideKept
    rw [Body.lines, Body.emissions, Brackets.attributed_append, Brackets.run_append, called,
      calledKept, inside, found]
    exact ⟨rfl, kept⟩

/-- Where no log text looks like a bracket, the parser follows the tree. -/
theorem parseOne_plain {tx : Json String} {calls : List Call}
    (carries : Carries tx calls) (plain : ∀ call ∈ calls, call.body.Plain) :
    parseOne discriminator tx =
      numbered (signatureOf tx) (slotOf tx) 0 (emissions discriminator calls) := by
  rw [parseOne_eq carries]
  congr 1
  clear carries
  induction calls with
  | nil => rfl
  | cons call calls ih =>
    rw [List.forall_mem_cons] at plain
    obtain ⟨inside, insideKept⟩ := attributed_plain discriminator plain.1
      call.program 1 []
    obtain ⟨called, calledKept⟩ := attributed_bracketed call.program 1 _ call.ending insideKept
    rw [transactionLog, List.flatMap_cons, Brackets.attributed_append, Call.lines, called,
      calledKept, inside, emissions, List.flatMap_cons]
    congr 1
    exact ih plain.2

/-! ### The parser and the tree -/

/-- The parser follows the invocation tree exactly if every event stands in an apparent bracket of
its emitter. -/
theorem parser_follows_tree (discriminator : EventName → Vector UInt8 8) (tx : Json String)
    (calls : List Call) (carries : Carries tx calls) :
    parseOne discriminator tx =
        numbered (signatureOf tx) (slotOf tx) 0 (emissions discriminator calls) ↔
      ∀ before line after, transactionLog calls = before ++ line :: after →
        (line.event discriminator).isSome →
          Brackets.Encloses LogLine.opens LogLine.closes before line.owner := by
  rw [parseOne_eq carries, ← owned_transactionLog]
  simp only [← Brackets.head_run_eq_some]
  rw [← Brackets.attributed_eq_owned]
  constructor
  · exact numbered_inj
  · exact congrArg _

end Events

/-- The shape of `getTransaction`. -/
def rawTransaction (signature : String) (slot : Int) (calls : List Call) : Json String :=
  .obj [("slot", .num slot), ("transaction", .obj [("signatures", .arr [.str signature])]),
    ("meta", .obj [("logMessages",
      .arr ((transactionLog calls).map fun line => .str (String.ofList line.text)))])]

theorem rawTransaction_carries {signature : String} (signed : signature ≠ "") (slot : Int)
    (calls : List Call) : Carries (rawTransaction signature slot calls) calls where
  signed := signed
  logged := rfl

def creditVaultProgram : ProgramId where
  text := "EsykPsafhHUeN7jA9DGqBiGuBsTBaFynLDVVpE4jFXDg".toList
  chars := List.all_iff_forall_prop.mp (by decide +kernel)
  long := by decide +kernel

def reputationProgram : ProgramId where
  text := "4GjB4xdm1VTPVM6KSiEEfJpD4u7BfY1qDx77StiFShvQ".toList
  chars := List.all_iff_forall_prop.mp (by decide +kernel)
  long := by decide +kernel

def otherProgram : ProgramId where
  text := List.replicate 32 'X'
  chars := List.all_iff_forall_prop.mp (by decide +kernel)
  long := by decide +kernel

def scoreData : Binary :=
  Event.data anchorDiscriminator (.reputation (.scoreComputed (Vector.replicate 32 8) 750 1000000))

/-- Another program that calls the reputation program. -/
def nestedCalls : List Call :=
  [⟨otherProgram, .emit (.log "rating".toList)
    (.invoke reputationProgram (.emit (.data [scoreData]) .done) .success .done), .success⟩]

theorem parser_follows_tree_nested :
    parseOne anchorDiscriminator (rawTransaction "sig" 7 nestedCalls) =
        numbered "sig" 7 0 (emissions anchorDiscriminator nestedCalls) ∧
      ∀ before line after, transactionLog nestedCalls = before ++ line :: after →
        (line.event anchorDiscriminator).isSome →
          Brackets.Encloses LogLine.opens LogLine.closes before line.owner := by
  have carries : Carries (rawTransaction "sig" 7 nestedCalls) nestedCalls :=
    rawTransaction_carries (by decide) 7 nestedCalls
  have plain : ∀ call ∈ nestedCalls, call.body.Plain := by
    have rating : Harmless "rating".toList := by decide
    intro call member
    obtain rfl := List.mem_singleton.mp member
    exact ⟨rating, ⟨trivial, trivial⟩, trivial⟩
  have follows : parseOne anchorDiscriminator (rawTransaction "sig" 7 nestedCalls) =
      numbered "sig" 7 0 (emissions anchorDiscriminator nestedCalls) := parseOne_plain carries plain
  exact ⟨follows, (parser_follows_tree _ _ _ carries).mp follows⟩

/-- A program that logs `success` before it logs an event. -/
def misreadCalls : List Call :=
  [⟨reputationProgram, .emit (.log "success".toList) (.emit (.data [scoreData]) .done), .success⟩]

theorem parser_leaves_tree :
    ¬∀ tx calls, Carries tx calls →
      parseOne anchorDiscriminator tx =
        numbered (signatureOf tx) (slotOf tx) 0 (emissions anchorDiscriminator calls) := by
  intro every
  have carries : Carries (rawTransaction "sig" 7 misreadCalls) misreadCalls :=
    rawTransaction_carries (by decide) 7 misreadCalls
  have same := every _ misreadCalls carries
  rw [parseOne_eq carries] at same
  have nothing : (Brackets.attributed LogLine.opens LogLine.closes
      (LogLine.event anchorDiscriminator) [] (transactionLog misreadCalls)).length = 0 := by
    decide +kernel
  have one : (emissions anchorDiscriminator misreadCalls).length = 1 := by decide +kernel
  rw [← numbered_inj same, nothing] at one
  exact absurd one (by decide)

end AgentFuel.Backend
