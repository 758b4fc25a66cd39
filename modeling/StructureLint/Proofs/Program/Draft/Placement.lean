import Mathlib.Data.List.Pairwise
import StructureLint.Proofs.Program.Draft
import StructureLint.Proofs.Program.Erasure
import StructureLint.Proofs.Program.Normalization

/-!
Contract: the lines that a draft gives to what is added.

A draft counts lines from the choice of a file on.  Between two choices it gives the
lines of one file in sequence, each once.  A file that is chosen again starts at its
first line again, so lines repeat exactly if a file is given lines, is left or chosen
anew, and is given lines again.

Owns:
- what calls mean for lines, and the lines given, as read off from a program;
- stretches of calls between choices of a file;
- when the lines given are apart, and when they ascend.

Does not own: places that come with what is passed in.
-/

namespace StructureLint

/-- A line of a source file. -/
structure SourceLine where
  file : SourcePath
  line : UInt64
  deriving DecidableEq, Repr

namespace SourceLine

/-- The same line of one file, however its path is spelled. -/
def Same (left right : SourceLine) : Prop :=
  left.file.Same right.file ∧ left.line = right.line

instance (left right : SourceLine) : Decidable (left.Same right) :=
  inferInstanceAs (Decidable (left.file.Same right.file ∧ left.line = right.line))

/-- If both are in one file, the second is behind the first. -/
def Ascends (earlier later : SourceLine) : Prop :=
  earlier.file.Same later.file → earlier.line < later.line

theorem Ascends.not_same {earlier later : SourceLine} (ascends : earlier.Ascends later) :
    ¬ earlier.Same later := by
  intro same
  have less := ascends same.1
  rw [same.2] at less
  exact UInt64.lt_irrefl _ less

end SourceLine

def Location.sourceLine (location : Location) : SourceLine :=
  ⟨location.file, location.line⟩

def TypeSymbol.sourceLine? (symbol : TypeSymbol) : Option SourceLine :=
  symbol.location.map Location.sourceLine

def Declaration.sourceLine (declaration : Declaration) : SourceLine :=
  declaration.location.sourceLine

namespace Draft

/-! ## Lines given -/

/-- What a call means for lines: it chooses a file, or adds an entry for which the draft
finds a line or has been told one. -/
inductive Placing where
  | file (file : SourcePath)
  | type (isPlaced : Bool)
  | declaration (isPlaced : Bool)
  | nothing

def Addition.placing : Addition → Placing
  | .file chosen => .file chosen
  | .type added => .type added.location.isNone
  | .symbol _ => .nothing
  | .declared .. => .declaration true
  | .declaration _ => .declaration false

def Call.placing (call : Call) : Placing :=
  (call.addition fun _ => "").placing

theorem placing_addition (call : Call) (typeName : TypeId → String) :
    (call.addition typeName).placing = call.placing := by
  cases call <;> rfl

/-- The lines found for what was added, in the order of the calls, among the lines of all
types and of all declarations that were added. -/
def linesFound : List Placing → (types : List (Option SourceLine)) →
    (declarations : List SourceLine) → List SourceLine
  | .type isPlaced :: rest, line :: types, declarations =>
    (if isPlaced then line.toList else []) ++ linesFound rest types declarations
  | .declaration isPlaced :: rest, types, line :: declarations =>
    (if isPlaced then [line] else []) ++ linesFound rest types declarations
  | _ :: rest, types, declarations => linesFound rest types declarations
  | [], _, _ => []

/-- The lines that were found for what the calls have added to an empty program. -/
def givenLines (calls : List Call) (program : Program) : List SourceLine :=
  linesFound (calls.map Call.placing) (program.types.map TypeSymbol.sourceLine?)
    (program.declarations.map Declaration.sourceLine)

/-! ## Stretches -/

/-- Calls between two choices of a file: the file, and how many items of it were given a
line. -/
structure Stretch where
  file : SourcePath
  items : Nat
  deriving DecidableEq, Repr

/-- The stretches of calls, where the first one has given lines to `items` items before. -/
def stretches (file : SourcePath) (items : Nat) : List Placing → List Stretch
  | [] => [⟨file, items⟩]
  | .file next :: rest => ⟨file, items⟩ :: stretches next 0 rest
  | .type true :: rest => stretches file (items + 1) rest
  | .declaration true :: rest => stretches file (items + 1) rest
  | _ :: rest => stretches file items rest

/-- The first lines of the file of the stretch. -/
def Stretch.lines (stretch : Stretch) : List SourceLine :=
  (List.range stretch.items).map fun index => ⟨stretch.file, UInt64.ofNat (index + 1)⟩

theorem lines_succ (file : SourcePath) (items : Nat) :
    Stretch.lines ⟨file, items + 1⟩ =
      Stretch.lines ⟨file, items⟩ ++ [⟨file, UInt64.ofNat (items + 1)⟩] := by
  simp [Stretch.lines, List.range_succ]

/-- No file is given lines in two stretches. -/
def Unresumed (calls : List Call) : Prop :=
  (stretches ({} : Draft).file 0 (calls.map Call.placing)).Pairwise fun earlier later =>
    earlier.items ≠ 0 → later.items ≠ 0 → ¬ earlier.file.Same later.file

instance (calls : List Call) : Decidable (Unresumed calls) :=
  inferInstanceAs (Decidable (List.Pairwise _ _))

theorem items_le_of_mem_stretches {placings : List Placing} {file : SourcePath} {items : Nat}
    {stretch : Stretch} (listed : stretch ∈ stretches file items placings) :
    stretch.items ≤ items + placings.length := by
  fun_induction stretches file items placings with
  | case1 file items =>
      rw [List.mem_singleton.mp listed]
      exact Nat.le_refl items
  | case2 file items next rest inductionHypothesis =>
      rw [List.length_cons]
      rcases List.mem_cons.mp listed with rfl | later
      · exact Nat.le_add_right items _
      · have bound := inductionHypothesis later
        omega
  | _ =>
      rename_i inductionHypothesis
      have bound := inductionHypothesis listed
      rw [List.length_cons]
      omega

/-! ## Runs -/

/-- What a run of calls from the draft on adds, where the current stretch has given lines
to `items` items before: types and declarations behind those of the draft, with the
lines of the stretches. -/
structure GivesLines (draft : Draft) (items : Nat) (placings : List Placing)
    (types : List TypeSymbol) (declarations : List Declaration) (final : Program) : Prop where
  typesBehind : final.types = draft.program.types ++ types
  declarationsBehind : final.declarations = draft.program.declarations ++ declarations
  lines : (stretches draft.file items placings).flatMap Stretch.lines =
    Stretch.lines ⟨draft.file, items⟩ ++
      linesFound placings (types.map TypeSymbol.sourceLine?)
        (declarations.map Declaration.sourceLine)

theorem sourceLine?_placedType {symbol : TypeSymbol} (untold : symbol.location = none)
    (draft : Draft) :
    (draft.placedType symbol).sourceLine? = some ⟨draft.file, draft.nextLine⟩ := by
  rw [TypeSymbol.sourceLine?, placedType, untold]
  rfl

/-- One addition moves the count on by the lines that it takes, and stands in front of
whatever the rest of the run adds. -/
theorem givesLines_adding {draft : Draft} {items : Nat}
    (counted : draft.nextLine = UInt64.ofNat (items + 1)) (addition : Addition) :
    ∃ next newTypes newDeclarations,
      (draft.adding addition).nextLine = UInt64.ofNat (next + 1) ∧
      ∀ {rest types declarations final},
        GivesLines (draft.adding addition) next rest types declarations final →
        GivesLines draft items (addition.placing :: rest) (newTypes ++ types)
          (newDeclarations ++ declarations) final := by
  have onward : draft.nextLine + 1 = UInt64.ofNat (items + 1 + 1) := by
    rw [counted, ← UInt64.ofNat_one, ← UInt64.ofNat_add]
  have nextGiven (later : List SourceLine) :
      Stretch.lines ⟨draft.file, items + 1⟩ ++ later =
        Stretch.lines ⟨draft.file, items⟩ ++ ⟨draft.file, draft.nextLine⟩ :: later := by
    rw [lines_succ, counted, List.append_assoc, List.singleton_append]
  cases addition with
  | file chosen =>
      refine ⟨0, [], [], rfl, fun later => ⟨later.typesBehind, later.declarationsBehind, ?_⟩⟩
      exact congrArg (Stretch.lines ⟨draft.file, items⟩ ++ ·) later.lines
  | type symbol =>
      have behind {types : List TypeSymbol} {final : Program}
          (same : final.types = (draft.adding (.type symbol)).program.types ++ types) :
          final.types = draft.program.types ++ ([draft.placedType symbol] ++ types) :=
        same.trans (List.append_assoc _ _ _)
      cases told : symbol.location with
      | some location =>
          refine ⟨items, [draft.placedType symbol], [], ?_, fun later =>
            ⟨behind later.typesBehind, later.declarationsBehind, ?_⟩⟩
          · simp only [adding, Addition.isPlaced, told, counted]
            rfl
          · simp only [Addition.placing, told]
            exact later.lines
      | none =>
          refine ⟨items + 1, [draft.placedType symbol], [], ?_, fun later =>
            ⟨behind later.typesBehind, later.declarationsBehind, ?_⟩⟩
          · simp only [adding, Addition.isPlaced, told]
            exact onward
          · simp only [Addition.placing, told, List.singleton_append, List.map_cons,
              sourceLine?_placedType told draft]
            exact later.lines.trans (nextGiven _)
  | symbol member =>
      exact ⟨items, [], [], counted, fun later =>
        ⟨later.typesBehind, later.declarationsBehind, later.lines⟩⟩
  | declared member kind body =>
      refine ⟨items + 1, [], [draft.placedDeclaration member kind body], onward, fun later =>
        ⟨later.typesBehind, ?_, ?_⟩⟩
      · exact later.declarationsBehind.trans (List.append_assoc _ _ _)
      · exact later.lines.trans (nextGiven _)
  | declaration declaration =>
      refine ⟨items, [], [declaration], counted, fun later =>
        ⟨later.typesBehind, ?_, later.lines⟩⟩
      exact later.declarationsBehind.trans (List.append_assoc _ _ _)

theorem givesLines_performAll (calls : List Call) {draft : Draft} {items : Nat}
    (counted : draft.nextLine = UInt64.ofNat (items + 1)) :
    ∃ types declarations, GivesLines draft items (calls.map Call.placing) types declarations
      ((performAll calls).run draft).2.program := by
  induction calls generalizing draft items with
  | nil =>
      refine ⟨[], [], (List.append_nil _).symm, (List.append_nil _).symm, ?_⟩
      simp [stretches, linesFound]
  | cons call rest inductionHypothesis =>
      obtain ⟨next, newTypes, newDeclarations, onward, prepend⟩ :=
        givesLines_adding counted (draft.additionOf call)
      obtain ⟨types, declarations, later⟩ := inductionHypothesis onward
      refine ⟨newTypes ++ types, newDeclarations ++ declarations, ?_⟩
      rw [run_performAll_cons, List.map_cons, ← placing_addition call draft.program.typeName]
      exact prepend later

/-- Calls on a new draft give the lines of their stretches. -/
theorem givenLines_drafted (calls : List Call) :
    givenLines calls (drafted calls).program =
      (stretches ({} : Draft).file 0 (calls.map Call.placing)).flatMap Stretch.lines := by
  obtain ⟨types, declarations, given⟩ := @givesLines_performAll calls {} 0 rfl
  rw [drafted, givenLines, given.typesBehind, given.declarationsBehind, given.lines]
  rfl

/-- Normalization moves nothing. -/
theorem givenLines_of_normalize {program normalized : Program}
    (accepted : program.normalize = .ok normalized) (calls : List Call) :
    givenLines calls normalized = givenLines calls program := by
  have bare := congrArg Program.declarations (Program.bare_of_normalize accepted)
  have sameLines : normalized.declarations.map Declaration.sourceLine =
      program.declarations.map Declaration.sourceLine := by
    have erased := congrArg (List.map Declaration.sourceLine) bare
    simp only [Program.bare, List.map_map] at erased
    exact erased
  rw [givenLines, sameLines, (Program.indexed_of_normalize accepted).types]
  rfl

/-! ## Repeated lines -/

/-- A stretch that gives lines begins with the first one. -/
theorem first_mem_lines {stretch : Stretch} (given : stretch.items ≠ 0) :
    ⟨stretch.file, 1⟩ ∈ stretch.lines :=
  List.mem_map.mpr ⟨0, List.mem_range.mpr (Nat.pos_of_ne_zero given), rfl⟩

theorem of_mem_lines {stretch : Stretch} {line : SourceLine} (listed : line ∈ stretch.lines) :
    line.file = stretch.file ∧ stretch.items ≠ 0 := by
  obtain ⟨index, inRange, rfl⟩ := List.mem_map.mp listed
  exact ⟨rfl, Nat.ne_zero_of_lt (List.mem_range.mp inRange)⟩

/-- Lines of one stretch ascend as long as they can be counted. -/
theorem pairwise_ascends_lines {stretch : Stretch} (countable : stretch.items < UInt64.size) :
    stretch.lines.Pairwise SourceLine.Ascends := by
  refine List.pairwise_map.mpr (List.pairwise_lt_range.imp_of_mem ?_)
  intro earlier later _ listed less _
  have bound := List.mem_range.mp listed
  rw [UInt64.lt_iff_toNat_lt, UInt64.toNat_ofNat_of_lt' (by omega),
    UInt64.toNat_ofNat_of_lt' (by omega)]
  omega

theorem pairwise_ascends_of_unresumed {calls : List Call} (countable : calls.length < UInt64.size)
    (unresumed : Unresumed calls) :
    (givenLines calls (drafted calls).program).Pairwise SourceLine.Ascends := by
  rw [givenLines_drafted]
  refine List.pairwise_flatMap.mpr ⟨fun stretch listed => ?_, unresumed.imp ?_⟩
  · have bound := items_le_of_mem_stretches listed
    rw [List.length_map] at bound
    exact pairwise_ascends_lines (by omega)
  · intro earlier later apart line inEarlier other inLater sameFile
    obtain ⟨lineFile, earlierGiven⟩ := of_mem_lines inEarlier
    obtain ⟨otherFile, laterGiven⟩ := of_mem_lines inLater
    rw [lineFile, otherFile] at sameFile
    exact absurd sameFile (apart earlierGiven laterGiven)

theorem unresumed_of_pairwise {calls : List Call}
    (apart : (givenLines calls (drafted calls).program).Pairwise fun earlier later =>
      ¬ earlier.Same later) : Unresumed calls := by
  rw [givenLines_drafted] at apart
  refine (List.pairwise_flatMap.mp apart).2.imp ?_
  intro earlier later linesApart earlierGiven laterGiven sameFile
  exact linesApart _ (first_mem_lines earlierGiven) _ (first_mem_lines laterGiven) ⟨sameFile, rfl⟩

/-- A draft gives the first lines of its file in each stretch between choices of a file,
and completion moves nothing.  So the lines given are apart, and ascend within each
file, exactly if no file is given lines in two stretches. -/
theorem lines_apart_iff_unresumed {calls : List Call} (countable : calls.length < UInt64.size) :
    givenLines calls (drafted calls).program =
      (stretches ({} : Draft).file 0 (calls.map Call.placing)).flatMap Stretch.lines ∧
    ((givenLines calls (drafted calls).program).Pairwise (fun earlier later =>
      ¬ earlier.Same later) ↔ Unresumed calls) ∧
    ((givenLines calls (drafted calls).program).Pairwise SourceLine.Ascends ↔
      Unresumed calls) ∧
    ∀ program, (drafted calls).finish = .ok program →
      givenLines calls program = givenLines calls (drafted calls).program := by
  have apartOfAscending
      (ascending : (givenLines calls (drafted calls).program).Pairwise SourceLine.Ascends) :
      (givenLines calls (drafted calls).program).Pairwise fun earlier later =>
        ¬ earlier.Same later :=
    ascending.imp SourceLine.Ascends.not_same
  refine ⟨givenLines_drafted calls, ⟨unresumed_of_pairwise, ?_⟩, ⟨?_, ?_⟩, ?_⟩
  · intro unresumed
    exact apartOfAscending (pairwise_ascends_of_unresumed countable unresumed)
  · intro ascending
    exact unresumed_of_pairwise (apartOfAscending ascending)
  · exact pairwise_ascends_of_unresumed countable
  · intro program accepted
    exact givenLines_of_normalize accepted calls

/-- Calls that choose the first file again, by another spelling, but add nothing to it. -/
def passingThrough : List Call :=
  [.addClass "Shop" none, .inFile ⟨"src/Bakery.cs"⟩, .addClass "Bakery" (some ⟨0⟩),
    .addMethod ⟨1⟩ "Bake" [("loaves", "int")] [], .inFile ⟨"src//Program.cs"⟩,
    .addSymbol (.method "Open" ⟨0⟩), .inFile ⟨"src/Oven.cs"⟩, .addStruct "Oven"]

theorem lines_apart_iff_unresumed_passingThrough :
    passingThrough.length < UInt64.size ∧ Unresumed passingThrough ∧
      (givenLines passingThrough (drafted passingThrough).program).Pairwise
        SourceLine.Ascends := by
  have countable : passingThrough.length < UInt64.size := by decide
  have unresumed : Unresumed passingThrough := by decide
  exact ⟨countable, unresumed, (lines_apart_iff_unresumed countable).2.2.1.mpr unresumed⟩

/-- A file that is chosen again gives its first line again. -/
theorem file_chosen_again_repeats_line :
    let calls : List Call :=
      [.inFile ⟨"a.cs"⟩, .addClass "A" none, .inFile ⟨"b.cs"⟩, .inFile ⟨"a.cs"⟩, .addClass "B" none]
    givenLines calls (drafted calls).program = [⟨⟨"a.cs"⟩, 1⟩, ⟨⟨"a.cs"⟩, 1⟩] ∧
      ¬ (givenLines calls (drafted calls).program).Pairwise fun earlier later =>
        ¬ earlier.Same later := by
  decide

end Draft

end StructureLint
