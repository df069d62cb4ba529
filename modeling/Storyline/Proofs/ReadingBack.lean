import Storyline.Codec.Event
import Storyline.Codec.Played
import Storyline.Codec.Save
import Storyline.Proofs.Assignment
import Storyline.Proofs.Handles
import Storyline.Proofs.Precision

set_option autoImplicit false

/-!
What is written as JSON reads back as what it was: a record field by field, a tagged choice because none of its fields has the
name of the tag, a table because its names are in order. The flags of the return visits are not written. They belong to the
playlist in use, and one that is put to use has none.
-/

namespace Storyline

/-! ### Parts of records -/

namespace Json

variable {α β : Type}

theorem read_then {first : Option α} {value : α} {rest : α → Option β} {result : β} (reads : first = some value)
    (onward : rest value = some result) : first >>= rest = some result := by
  rw [reads]
  exact onward

theorem record_read {fields : List (String × Json)} {names : List String} {required : Nat}
    (distinct : names.any (repeats fields) = false) : record? names required (.object fields) = some fields := by
  rw [record?, if_neg (Bool.eq_false_iff.mp distinct)]

theorem tagged_read {tag name : String} {fields : List (String × Json)} (apart : ∀ field ∈ fields, field.1 ≠ tag)
    (whole : readableFields fields = true) :
    tagged? tag (.object ((tag, .text name) :: fields)) = some (name, .object fields) := by
  have others : fields.filter (fun field => field.1 = tag) = [] := by
    rw [List.filter_eq_nil_iff]
    simpa using apart
  have rest : fields.filter (fun field => !decide (field.1 = tag)) = fields := by
    rw [List.filter_eq_self]
    simpa using apart
  have readable : readable (.object ((tag, .text name) :: fields)) = true := by simp [readable, readableFields, whole]
  simp [tagged?, readable, repeats, others, rest, required?, field?, text?]

section Fields

variable {fields : List (String × Json)} {name : String} {json : Json} {read : Json → Option α} {value : α}

theorem required_read (found : field? fields name = some json) (reads : read json = some value) :
    required? fields name read = some value := by
  rw [required?, found]
  exact reads

theorem defaulted_read {default : α} (found : field? fields name = some json) (reads : read json = some value) :
    defaulted? fields name default read = some value := by
  rw [defaulted?, found]
  exact reads

end Fields

section Containers

variable {read : Json → Option α} {encode : α → Json}

theorem list_read (items : List α) (reads : ∀ item ∈ items, read (encode item) = some item) :
    list? read (.array (items.map encode)) = some items := by
  induction items with
  | nil => rfl
  | cons item items ih =>
      obtain ⟨first, rest⟩ := List.forall_mem_cons.mp reads
      have later : (items.map encode).mapM read = some items := ih rest
      simp [list?, array?, first, later]

theorem table_read (encode : α → Json) (entries : List (String × α))
    (reads : ∀ entry ∈ entries, read (encode entry.2) = some entry.2) :
    table? read (.object (entries.map fun entry => (entry.1, encode entry.2))) = some entries := by
  induction entries with
  | nil => rfl
  | cons entry entries ih =>
      obtain ⟨first, rest⟩ := List.forall_mem_cons.mp reads
      have later := ih rest
      simp only [table?] at later
      simp [table?, first, later]

theorem readable_items (items : List α) (whole : ∀ item, readable (encode item) = true) :
    readableItems (items.map encode) = true := by
  induction items with
  | nil => rfl
  | cons item items ih => simp [readableItems, whole, ih]

end Containers

theorem below_read (bound value : Nat) (less : value < bound) : below? bound (.integer value) = some value := by
  simp [below?, less]

theorem uint32_read (x : UInt32) : uint32? (.integer x.toNat) = some x := by
  rw [uint32?, below_read _ _ x.toNat_lt]
  simp

theorem uint64_read (x : UInt64) : uint64? (.integer x.toNat) = some x := by
  rw [uint64?, below_read _ _ x.toNat_lt]
  simp

theorem float_readable (x : Float) : readable (ofFloat x) = true := by
  rw [ofFloat]
  split <;> rfl

end Json

open Json

/-! ### Expressions -/

def Value.Finite : Value → Prop
  | .number x => x.isFinite = true
  | _ => True

theorem Value.reads_back (value : Value) (finite : value.Finite) : ofJson? value.toJson = some value := by
  cases value with
  | number x =>
      have written : ofFloat x = .float x := if_pos finite
      rw [toJson, written]
      rfl
  | _ => rfl

namespace Expr

def Finite : Expr → Prop
  | .literal value => value.Finite
  | .var _ => True
  | .not operand | .neg operand => operand.Finite
  | .binary _ lhs rhs => lhs.Finite ∧ rhs.Finite

theorem binary_reads {place : Place} (op : BinaryOp) {left right : Json} {lhs rhs : Expr}
    (first : ofJson? place left = some lhs) (second : ofJson? place right = some rhs) :
    ofJson? place (.object [("binary", .object [("op", .text op.symbol), ("lhs", left), ("rhs", right)])]) =
      some (.binary op lhs rhs) := by
  have symbol : choice? BinaryOp.all BinaryOp.symbol place (.text op.symbol) = some op := by cases op <;> rfl
  rw [ofJson?]
  dsimp only
  split
  · next nothing => cases nothing
  · next fields read =>
      cases read
      rw [required_read rfl symbol]
      split
      · next same left right =>
          cases same
          cases left
          cases right
          simp [first, second]
      · next missing => exact (missing op left right rfl rfl rfl).elim

theorem reads_back (place : Place) (expr : Expr) (finite : expr.Finite) : ofJson? place expr.toJson = some expr := by
  induction expr with
  | literal value =>
      rw [toJson, ofJson?]
      exact congrArg (Option.map literal) (value.reads_back finite)
  | var name =>
      rw [toJson, ofJson?]
      rfl
  | not operand ih | neg operand ih =>
      rw [toJson, ofJson?]
      simp [ih finite]
  | binary op lhs rhs left right => exact binary_reads op (left finite.1) (right finite.2)

theorem json_readable (expr : Expr) : expr.toJson.readable = true := by
  induction expr with
  | literal value =>
      have whole : value.toJson.readable = true := by cases value <;> first | rfl | exact float_readable _
      simp [toJson, readable, readableFields, whole]
  | _ => simp_all [toJson, readable, readableFields]

end Expr

/-! ### Kinds of commands -/

theorem present_read {name : String} {value : Option String} {fields : List (String × Json)}
    (found : field? fields name = value.map text) : defaulted? fields name none (optional? text?) = some value := by
  rw [defaulted?, found]
  cases value <;> rfl

theorem Target.reads_back (target : Target) : ofJson? target.toJson = some target := by
  obtain ⟨_ | script, _ | label⟩ := target <;> rfl

theorem TextLine.reads_back (line : TextLine) : ofJson? (.object line.fields) = some line := by
  obtain ⟨_ | author, text, reveal, wait⟩ := line <;>
    exact read_then (record_read rfl) <| read_then (present_read rfl) <| read_then (required_read rfl rfl) <|
      read_then (defaulted_read rfl (uint64_read reveal)) <| read_then (defaulted_read rfl rfl) rfl

namespace Kind

theorem millis_read (make : UInt64 → Kind) (millis : UInt64) :
    ofMillis? make (.object [("millis", .integer millis.toNat)]) = some (make millis) :=
  read_then (record_read rfl) (read_then (required_read rfl (uint64_read millis)) rfl)

theorem condition_read (make : Expr → Kind) (condition : Expr) (finite : condition.Finite) :
    ofCondition? make (.object [("cond", condition.toJson)]) = some (make condition) :=
  read_then (record_read rfl) (read_then (required_read rfl (condition.reads_back .tagged finite)) rfl)

-- A kind of this library whose numbers are finite.
def Fits : Kind → Prop
  | .set _ _ value => value.Finite
  | .branch condition | .elseBranch condition | .loop condition => condition.Finite
  | .random weights => ∀ weight ∈ weights, weight.isFinite = true
  | .custom _ => False
  | _ => True

theorem weights_read (weights : List Float32) (finite : ∀ weight ∈ weights, weight.isFinite = true) :
    list? float32? (.array (weights.map fun weight => ofFloat (Decimal.widen weight))) = some weights := by
  refine list_read weights fun weight member => ?_
  obtain ⟨wide, back⟩ := Decimal.narrow_widen weight (finite weight member)
  rw [ofFloat, if_pos wide, float32?, back]

theorem parameters_read (kind : Kind) (fits : kind.Fits) :
    ∃ fields, kind.parameters? = some fields ∧ (∀ field ∈ fields, field.1 ≠ "command") ∧ readableFields fields = true ∧
      ofParameters? kind.name (.object fields) = some kind := by
  cases kind with
  | custom command => exact fits.elim
  | set name op value =>
      have symbol : choice? AssignOp.all AssignOp.symbol .tagged (.text op.symbol) = some op := by cases op <;> rfl
      refine ⟨_, rfl, by simp, by simp [readableFields, readable, Expr.json_readable], ?_⟩
      exact read_then (record_read rfl) <| read_then (required_read rfl rfl) <| read_then (defaulted_read rfl symbol) <|
        read_then (required_read rfl (value.reads_back .tagged fits)) rfl
  | print line =>
      refine ⟨_, rfl, ?_, ?_, congrArg (Option.map Kind.print) line.reads_back⟩ <;>
        obtain ⟨_ | author, text, reveal, wait⟩ := line <;> simp [TextLine.fields, present, readableFields, readable]
  | goto target | gosub target =>
      refine ⟨_, rfl, ?_, ?_, congrArg (Option.map _) target.reads_back⟩ <;>
        obtain ⟨_ | script, _ | label⟩ := target <;> simp [Target.fields, present, readableFields, readable]
  | branch condition | elseBranch condition | loop condition =>
      exact ⟨_, rfl, by simp, by simp [readableFields, Expr.json_readable], condition_read _ condition fits⟩
  | random weights =>
      refine ⟨_, rfl, by simp, by simp [readableFields, readable, readable_items, float_readable], ?_⟩
      exact read_then (record_read rfl) (read_then (defaulted_read rfl (weights_read weights fits)) rfl)
  | wait millis | delay millis => exact ⟨_, rfl, by simp, rfl, millis_read _ millis⟩
  | transition millis =>
      refine ⟨_, rfl, by simp, rfl, ?_⟩
      exact read_then (record_read rfl) (read_then (defaulted_read rfl (uint64_read millis)) rfl)
  | _ => exact ⟨_, rfl, by simp, rfl, rfl⟩

theorem reads_back (kind : Kind) (fits : kind.Fits) :
    ∃ json, kind.toJson? = some json ∧ ofJson? json = some kind := by
  obtain ⟨fields, written, apart, whole, read⟩ := kind.parameters_read fits
  refine ⟨_, congrArg (Option.map _) written, ?_⟩
  rw [ofJson?, tagged_read apart whole]
  exact read

end Kind

/-! ### Saves, snapshots and the register -/

theorem Spot.reads_back (spot : Spot) : ofJson? spot.toJson = some spot :=
  read_then (record_read rfl) <| read_then (required_read rfl rfl) <| read_then (required_read rfl (uint32_read _)) <|
    read_then (required_read rfl (uint32_read _)) rfl

theorem Spot.optional_read (spot : Option Spot) : optional? ofJson? (ofOption toJson spot) = some spot := by
  cases spot with
  | none => rfl
  | some spot =>
      rw [ofOption, optional?, spot.reads_back]
      · rfl
      · exact fun null => by cases null

theorem Save.reads_back (save : Save) : ofJson? save.toJson = some save :=
  read_then (record_read rfl) <| read_then (required_read rfl rfl) <| read_then (required_read rfl rfl) <|
    read_then (required_read rfl rfl) <|
    read_then (defaulted_read rfl (list_read save.returns fun spot _ => spot.reads_back)) <|
    read_then (defaulted_read rfl (Spot.optional_read save.spot)) rfl

-- The names are in order, and the numbers are finite.
structure Variables.Fits (store : Variables) : Prop where
  sorted : store.entries.Pairwise fun a b => a.1 < b.1
  finite : ∀ entry ∈ store.entries, entry.2.Finite

theorem Variables.reads_back (store : Variables) (fits : store.Fits) : ofJson? store.toJson = some store := by
  have read := table_read Value.toJson store.entries fun entry member => entry.2.reads_back (fits.finite entry member)
  have whole : ofList store.entries = ⟨store.entries.foldl (fun all entry => insertEntry entry.1 entry.2 all) []⟩ :=
    List.foldl_hom Variables.mk fun _ _ => rfl
  rw [ofJson?, toJson, read, Option.map_some, whole, Tables.put_in_order put_places store.entries [] fits.sorted]
  rfl

structure Snapshot.Fits (snapshot : Snapshot) : Prop where
  id : snapshot.id < UInt64.size
  store : snapshot.store.Fits

theorem Snapshot.reads_back (snapshot : Snapshot) (fits : snapshot.Fits) : ofJson? snapshot.toJson = some snapshot :=
  read_then (record_read rfl) <| read_then (defaulted_read rfl (below_read _ _ fits.id)) <|
    read_then (required_read rfl snapshot.spot.reads_back) <| read_then (required_read rfl snapshot.player.reads_back) <|
    read_then (required_read rfl (snapshot.store.reads_back fits.store)) <| read_then (defaulted_read rfl rfl) rfl

structure Played.Fits (played : Played) : Prop where
  sorted : played.scripts.Pairwise fun a b => a.1 < b.1
  bounds : ∀ entry ∈ played.scripts, ∀ range ∈ entry.2, range.start < UInt64.size ∧ range.stop < UInt64.size

theorem IndexRange.reads_back (range : IndexRange) (start : range.start < UInt64.size) (stop : range.stop < UInt64.size) :
    ofJson? range.toJson = some range :=
  read_then (record_read rfl) <| read_then (required_read rfl (below_read _ _ start)) <|
    read_then (required_read rfl (below_read _ _ stop)) rfl

theorem Played.reads_back (played : Played) (fits : played.Fits) : ofJson? played.toJson = some played := by
  have read := table_read (fun ranges => .array (ranges.map IndexRange.toJson)) played.scripts fun entry member =>
    list_read entry.2 fun range inside =>
      range.reads_back (fits.bounds entry member range inside).1 (fits.bounds entry member range inside).2
  rw [ofJson?, toJson, read, Option.map_some]
  exact congrArg (fun scripts => some (Played.mk scripts)) (Tables.put_in_order put_places played.scripts [] fits.sorted)

/-! ### Signals and events -/

theorem Signal.reads_back (signal : Signal) : ofJson? signal.toJson = some signal := by
  cases signal <;> rfl

namespace Event

theorem command_read (make : Spot → String → Lane → Event) (spot : Spot) (command : String) (lane : Lane) :
    ofCommand? make (.object [("spot", spot.toJson), ("command", .text command), ("lane", .text lane.name)]) =
      some (make spot command lane) := by
  have named : Lane.ofJson? .tagged (.text lane.name) = some lane := by cases lane <;> rfl
  exact read_then (record_read rfl) <| read_then (required_read rfl spot.reads_back) <|
    read_then (required_read rfl rfl) <| read_then (required_read rfl named) rfl

theorem parameters_read (event : Event) : ofParameters? event.name (.object event.parameters) = some event := by
  cases event with
  | started spot => exact read_then (record_read rfl) (read_then (required_read rfl spot.reads_back) rfl)
  | stopped spot reason =>
      have named : StopReason.ofJson? .tagged (.text reason.name) = some reason := by cases reason <;> rfl
      exact read_then (record_read rfl) <| read_then (defaulted_read rfl (Spot.optional_read spot)) <|
        read_then (required_read rfl named) rfl
  | commandExecuting spot command lane | commandExecuted spot command lane => exact command_read _ spot command lane
  | _ => rfl

theorem reads_back (event : Event) : ofJson? event.toJson = some event := by
  have apart : ∀ field ∈ event.parameters, field.1 ≠ "event" := by cases event <;> simp [parameters]
  have whole : readableFields event.parameters = true := by
    cases event with
    | stopped spot reason => cases spot <;> rfl
    | _ => rfl
  rw [ofJson?, toJson, tagged_read apart whole]
  exact event.parameters_read

end Event

/-! ### All of them -/

-- A command of a playlist in use: its kind, and whether its return visit is due.
def Player.standing? (player : Player) (loaded : Loaded) (index : Nat) : Option (Kind × Bool) :=
  (loaded.playlist.kind? index).map fun kind => (kind, player.isReturnVisit loaded index)

theorem Player.standing_fresh (player : Player) (playlist : Playlist)
    (clear : (player.trail (player.library.load playlist).1).raised = []) (index : Nat) (kind : Kind)
    (known : playlist.kind? index = some kind) :
    player.standing? (player.library.load playlist).1 index = some (kind, false) := by
  have fresh : player.isReturnVisit (player.library.load playlist).1 index = false := by
    rw [Bool.eq_false_iff, ne_eq, isReturnVisit, List.contains_iff_mem, ← mem_trail, clear]
    exact List.not_mem_nil
  have there : (player.library.load playlist).1.playlist.kind? index = some kind := known
  rw [standing?, there, fresh]
  rfl

-- Whatever is written as JSON reads back as the same value, with all its numbers and with the fields that were left out. Where
-- a kind of command that was read back stands in a playlist that is put to use, whatever was played before, its return visit is
-- not due.
theorem encoded_reads_back :
    (∀ (place : Place) (expr : Expr), expr.Finite → Expr.ofJson? place expr.toJson = some expr) ∧
      (∀ kind : Kind, kind.Fits → ∃ json, kind.toJson? = some json ∧ Kind.ofJson? json = some kind ∧
        ∀ (start : World) (moves : List World.Move) (playlist : Playlist) (index : Nat), start.Numbered →
          start.activities = [] → start.player.raised = [] → start.player.playback.loaded = none →
          (∀ loaded ∈ start.player.library.scripts, loaded.handle < start.player.library.nextHandle) →
          playlist.kind? index = Kind.ofJson? json →
          let player := (start.after moves).player
          player.standing? (player.library.load playlist).1 index = some (kind, false)) ∧
      (∀ save : Save, Save.ofJson? save.toJson = some save) ∧
      (∀ snapshot : Snapshot, snapshot.Fits → Snapshot.ofJson? snapshot.toJson = some snapshot) ∧
      (∀ played : Played, played.Fits → Played.ofJson? played.toJson = some played) ∧
      (∀ event : Event, Event.ofJson? event.toJson = some event) ∧
      (∀ signal : Signal, Signal.ofJson? signal.toJson = some signal) ∧
      (∀ target : Target, Target.ofJson? target.toJson = some target) ∧
      (∀ line : TextLine, field? line.fields "author" = line.author.map text) ∧
      ∀ target : Target, field? target.fields "script" = target.script.map text ∧
        field? target.fields "label" = target.label.map text := by
  refine ⟨Expr.reads_back, fun kind fits => ?_, Save.reads_back, Snapshot.reads_back, Played.reads_back, Event.reads_back,
    Signal.reads_back, Target.reads_back, fun line => ?_, fun target => ?_⟩
  · obtain ⟨json, written, read⟩ := kind.reads_back fits
    refine ⟨json, written, read, fun start moves playlist index numbered nobody unraised nowhere handles same => ?_⟩
    have clear := start.clear_after moves numbered nobody unraised nowhere handles playlist
    exact Player.standing_fresh _ playlist clear index kind (same.trans read)
  · obtain ⟨_ | author, text, reveal, wait⟩ := line <;> rfl
  · obtain ⟨_ | script, _ | label⟩ := target <;> exact ⟨rfl, rfl⟩

-- The number next to a tenth and the smallest above zero, while the flag of another playlist is up; a snapshot in the middle of
-- a call, and a register of two scripts.
theorem weighted_choice_reads_back :
    let kind : Kind := .random [.ofBits 0x3dcccccd, .ofBits 1]
    let player := (World.escaping.after World.escape).player
    let store : Variables := ⟨[("coins", .number 2), ("name", .text "Ann")]⟩
    let snapshot : Snapshot := ⟨3, ⟨"road", 1, 0⟩, { returns := [⟨"lane", 4, 1⟩] }, store, true⟩
    let played : Played := ⟨[("lane", [⟨0, 4⟩]), ("road", [⟨0, 1⟩, ⟨6, 9⟩])]⟩
    (player.raised = [(0, 1)] ∧ ∃ json, kind.toJson? = some json ∧ Kind.ofJson? json = some kind ∧
      player.standing? (player.library.load ⟨"fork", #[⟨0, {}, none, true, kind⟩]⟩).1 0 = some (kind, false)) ∧
    Snapshot.ofJson? snapshot.toJson = some snapshot ∧ Played.ofJson? played.toJson = some played := by
  intro kind player store snapshot played
  obtain ⟨_, kinds, _, snapshots, registers, _⟩ := encoded_reads_back
  have fits : kind.Fits := by
    intro weight member
    fin_cases member <;> decide +kernel
  obtain ⟨json, written, read, stands⟩ := kinds kind fits
  refine ⟨⟨by decide +kernel, json, written, read, ?_⟩, snapshots snapshot ⟨by decide, by decide, ?_⟩,
    registers played ⟨by decide, by decide⟩⟩
  · exact stands World.escaping World.escape _ 0 (World.numbered_new _ rfl) rfl rfl rfl (by decide) read.symm
  · intro entry member
    fin_cases member
    · exact (by decide +kernel : Float.isFinite 2 = true)
    · trivial

end Storyline
