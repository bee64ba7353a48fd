/-
The read-only posture of the layout script: what opens and what seals the
nodes of a disk (tools/lib/install-layout.sh).
-/

import Liuqin.Layout.Device

namespace Liuqin.Layout.Device

open Liuqin.Library.Program

/-! ### Postures -/

def ReadOnly (kernel : Kernel) : Prop := ∀ block ∈ kernel.blocks, block.ro = true

/-- Every request to set a flag worked. -/
def SetroWorked (log : List (Command × Bool)) : Prop := ∀ node, (Command.setro node, false) ∉ log

/-- The commands whose failure ends the script before it seals. -/
def Command.Ends : Command → Prop
  | .setrw _ => True
  | .dd _ => True
  | .sync => True
  | _ => False

/-- No node has been opened for writing. -/
def Untouched (log : List (Command × Bool)) : Prop := ∀ node, (Command.setrw node, true) ∉ log

/-- No command that ends the script failed while a node was open. -/
def Unharmed (log : List (Command × Bool)) : Prop :=
  ∀ earlier command later, log = earlier ++ (command, false) :: later → command.Ends →
    Untouched earlier

/-- What an exit owes. -/
def Good (kernel : Kernel) : Prop :=
  SetroWorked kernel.log → (ReadOnly kernel ↔ Unharmed kernel.log)

/-- Before the disk is opened and after it is sealed. -/
structure Steady (kernel : Kernel) : Prop where
  readOnly : ReadOnly kernel
  unharmed : Unharmed kernel.log

/-- In between: the disk is writable, and only nodes of it are. -/
structure Opened (disk : Name) (kernel : Kernel) : Prop where
  requested : ¬ Untouched kernel.log
  writable : ∃ block ∈ kernel.blocks, block.node = whole disk ∧ block.ro = false
  others : ∀ block ∈ kernel.blocks, block.node.disk ≠ disk → block.ro = true
  unharmed : Unharmed kernel.log

theorem Steady.good {kernel : Kernel} (steady : Steady kernel) : Good kernel := by
  intro _
  constructor
  · intro _
    exact steady.unharmed
  · intro _
    exact steady.readOnly

/-- What the kernel is after a command. -/
def Kernel.after (kernel : Kernel) (command : Command) (ok : Bool) (fresh : List Fresh) : Kernel :=
  { blocks := effect command ok fresh kernel.blocks, log := kernel.log ++ [(command, ok)] }

theorem unharmed_append {log : List (Command × Bool)} {command : Command} {ok : Bool}
    (unharmed : Unharmed log) (works : command.Ends → ok = false → Untouched log) :
    Unharmed (log ++ [(command, ok)]) := by
  intro earlier failed later same ends
  rcases List.eq_nil_or_concat later with rfl | ⟨front, last, rfl⟩
  · obtain ⟨rfl, entry⟩ := List.append_inj' same rfl
    obtain ⟨rfl, rfl⟩ := Prod.mk.inj (List.singleton_inj.mp entry)
    exact works ends rfl
  · have longer : log ++ [(command, ok)] = (earlier ++ (failed, false) :: front) ++ [last] := by
      rw [same, List.concat_eq_append, List.append_assoc, List.cons_append]
    exact unharmed earlier failed front (List.append_inj' longer rfl).1 ends

theorem unharmed_worked {log : List (Command × Bool)} {command : Command}
    (unharmed : Unharmed log) : Unharmed (log ++ [(command, true)]) := by
  apply unharmed_append unharmed
  intro _ impossible
  cases impossible

theorem unharmed_nil : Unharmed [] := by
  intro earlier command later same
  have positive := congrArg List.length same
  rw [List.length_append] at positive
  cases positive

theorem untouched_nil : Untouched [] := by
  intro node member
  cases member

theorem touched_append {log : List (Command × Bool)} (touched : ¬ Untouched log)
    (entry : Command × Bool) : ¬ Untouched (log ++ [entry]) := by
  intro untouched
  apply touched
  intro node member
  exact untouched node (List.mem_append_left _ member)

theorem touched_last (log : List (Command × Bool)) (node : Node) :
    ¬ Untouched (log ++ [(Command.setrw node, true)]) := by
  intro untouched
  exact untouched node (List.mem_append_right _ (List.mem_singleton_self _))

/-- A failure that ends an opened script leaves the disk writable. -/
theorem Opened.broken {disk : Name} {kernel : Kernel} (opened : Opened disk kernel)
    {command : Command} (ends : command.Ends) (fresh : List Fresh)
    (same : effect command false fresh kernel.blocks = kernel.blocks) :
    Good (kernel.after command false fresh) := by
  intro _
  constructor
  · intro readOnly
    obtain ⟨block, member, _, writable⟩ := opened.writable
    have present : block ∈ (kernel.after command false fresh).blocks := by
      rw [Kernel.after, same]
      exact member
    rw [readOnly block present] at writable
    cases writable
  · intro unharmed
    exact absurd (unharmed kernel.log command [] rfl ends) opened.requested

/-! ### Flags -/

theorem setFlag_mem {node : Node} {ro : Bool} {blocks : List Block} {block : Block}
    (member : block ∈ setFlag node ro blocks) :
    ∃ before ∈ blocks, block.node = before.node ∧
      (block.node = node ∧ block.ro = ro ∨ block.node ≠ node ∧ block.ro = before.ro) := by
  obtain ⟨before, present, same⟩ := List.mem_map.mp member
  refine ⟨before, present, ?_⟩
  by_cases here : before.node = node
  · rw [if_pos here] at same
    rw [← same]
    exact ⟨rfl, Or.inl ⟨here, rfl⟩⟩
  · rw [if_neg here] at same
    rw [← same]
    exact ⟨rfl, Or.inr ⟨here, rfl⟩⟩

theorem setFlag_of_mem (node : Node) (ro : Bool) {blocks : List Block} {block : Block}
    (member : block ∈ blocks) : ∃ after ∈ setFlag node ro blocks, after.node = block.node ∧
      (block.node = node → after.ro = ro) ∧ (block.node ≠ node → after.ro = block.ro) := by
  refine ⟨if block.node = node then { block with ro } else block,
    List.mem_map.mpr ⟨block, member, rfl⟩, ?_⟩
  by_cases here : block.node = node
  · rw [if_pos here]
    exact ⟨rfl, fun _ => rfl, fun elsewhere => absurd here elsewhere⟩
  · rw [if_neg here]
    exact ⟨rfl, fun same => absurd same here, fun _ => rfl⟩

/-- Opening the disk. -/
theorem Steady.open {kernel : Kernel} {disk : Name} (steady : Steady kernel)
    (present : ∃ block ∈ kernel.blocks, block.node = whole disk) (fresh : List Fresh) :
    Opened disk (kernel.after (.setrw (whole disk)) true fresh) := by
  obtain ⟨block, member, here⟩ := present
  constructor
  · exact touched_last kernel.log (whole disk)
  · obtain ⟨after, inside, same, flagged, _⟩ := setFlag_of_mem (whole disk) false member
    exact ⟨after, inside, same.trans here, flagged here⟩
  · intro other inside elsewhere
    obtain ⟨before, was, same, flag⟩ := setFlag_mem inside
    rcases flag with ⟨target, _⟩ | ⟨_, kept⟩
    · rw [target] at elsewhere
      exact absurd rfl elsewhere
    · rw [kept]
      exact steady.readOnly before was
  · exact unharmed_worked steady.unharmed

theorem Steady.refused {kernel : Kernel} {disk : Name} (steady : Steady kernel)
    (untouched : Untouched kernel.log) (fresh : List Fresh) :
    Steady (kernel.after (.setrw (whole disk)) false fresh) := by
  constructor
  · exact steady.readOnly
  · apply unharmed_append steady.unharmed
    intro _ _
    exact untouched

/-- Opening a partition of it as well. -/
theorem Opened.openPart {kernel : Kernel} {disk : Name} {part : Node} (opened : Opened disk kernel)
    (own : part.disk = disk) (fresh : List Fresh) :
    Opened disk (kernel.after (.setrw part) true fresh) := by
  obtain ⟨block, member, here, writable⟩ := opened.writable
  constructor
  · exact touched_append opened.requested _
  · obtain ⟨after, inside, same, flagged, kept⟩ := setFlag_of_mem part false member
    refine ⟨after, inside, same.trans here, ?_⟩
    by_cases target : block.node = part
    · exact flagged target
    · rw [kept target]
      exact writable
  · intro other inside elsewhere
    obtain ⟨before, was, same, flag⟩ := setFlag_mem inside
    rcases flag with ⟨target, _⟩ | ⟨_, kept⟩
    · rw [target] at elsewhere
      exact absurd own elsewhere
    · rw [kept]
      rw [same] at elsewhere
      exact opened.others before was elsewhere
  · exact unharmed_worked opened.unharmed

/-- A command that leaves the nodes alone and works. -/
theorem Opened.worked {kernel : Kernel} {disk : Name} (opened : Opened disk kernel)
    {command : Command} {fresh : List Fresh}
    (same : effect command true fresh kernel.blocks = kernel.blocks) :
    Opened disk (kernel.after command true fresh) := by
  constructor
  · exact touched_append opened.requested _
  · rw [Kernel.after, same]
    exact opened.writable
  · rw [Kernel.after, same]
    exact opened.others
  · exact unharmed_worked opened.unharmed

/-- New partitions of the disk, whatever their flags. -/
theorem Opened.repartitioned {kernel : Kernel} {disk : Name} (opened : Opened disk kernel)
    {command : Command} {ok : Bool} {fresh : List Fresh} (harmless : ¬ command.Ends)
    (same : effect command ok fresh kernel.blocks = repartition disk fresh kernel.blocks) :
    Opened disk (kernel.after command ok fresh) := by
  obtain ⟨block, member, here, writable⟩ := opened.writable
  constructor
  · exact touched_append opened.requested _
  · refine ⟨block, ?_, here, writable⟩
    rw [Kernel.after, same]
    apply List.mem_append_left
    apply List.mem_filter.mpr
    refine ⟨member, decide_eq_true ?_⟩
    rintro ⟨_, partition⟩
    rw [here] at partition
    exact partition rfl
  · intro other inside elsewhere
    rw [Kernel.after, same] at inside
    rcases List.mem_append.mp inside with kept | made
    · exact opened.others other (List.mem_filter.mp kept).1 elsewhere
    · obtain ⟨part, _, rfl⟩ := List.mem_map.mp made
      exact absurd rfl elsewhere
  · exact unharmed_append opened.unharmed (fun ends _ => absurd ends harmless)

/-! ### Running the helpers -/

/-- Every exit is good, and `returned` holds of a result. -/
def Safely {α : Type} (program : Script α) (returned : α → Kernel → Prop) (kernel : Kernel) : Prop :=
  wp machine (fun _ _ => True) (fun _ after => Good after) program returned kernel

section Rules

variable {α β : Type} {kernel : Kernel}

theorem safely_pure {value : α} {returned : α → Kernel → Prop} (holds : returned value kernel) :
    Safely (pure value) returned kernel := holds

theorem safely_bind {first : Script α} {next : α → Script β} {returned : β → Kernel → Prop}
    (holds : Safely first (fun value => Safely (next value) returned) kernel) :
    Safely (first >>= next) returned kernel :=
  wp_seq holds

theorem safely_mono {program : Script α} {returned other : α → Kernel → Prop}
    (holds : Safely program returned kernel)
    (weaker : ∀ value after, returned value after → other value after) :
    Safely program other kernel :=
  wp_returned holds weaker

theorem safely_die {text : String} {returned : α → Kernel → Prop} (good : Good kernel) :
    Safely (die text) returned kernel := by
  constructor
  · trivial
  · intro _
    exact good

theorem safely_ite {condition : Prop} {decided : Decidable condition} {yes no : Script α}
    {returned : α → Kernel → Prop} (positive : condition → Safely yes returned kernel)
    (negative : ¬ condition → Safely no returned kernel) :
    Safely (@ite _ condition decided yes no) returned kernel :=
  wp_ite positive negative

theorem safely_orDie {ok : Prop} {decided : Decidable ok} {text : String}
    {returned : Unit → Kernel → Prop} (good : Good kernel) (holds : ok → returned () kernel) :
    Safely (@orDie ok decided text) returned kernel := by
  apply safely_ite
  · intro fine
    exact holds fine
  · intro _
    exact safely_die good

theorem safely_orMissing {value : Option α} {text : String} {returned : α → Kernel → Prop}
    (good : Good kernel) (holds : ∀ found, value = some found → returned found kernel) :
    Safely (orMissing value text) returned kernel := by
  cases value with
  | none => exact safely_die good
  | some found => exact holds found rfl

theorem safely_orStop {ok : Bool} {returned : Unit → Kernel → Prop} (good : ok = false → Good kernel)
    (holds : ok = true → returned () kernel) : Safely (orStop ok) returned kernel := by
  cases ok with
  | false => exact good rfl
  | true => exact holds rfl

/-- A command of the script that only looks. -/
theorem safely_look {operation : Op} {returned : Answer operation → Kernel → Prop}
    (kept : ∀ choice, (react operation choice kernel).2 = kernel)
    (holds : ∀ choice, returned (react operation choice kernel).1 kernel) :
    Safely (run operation) returned kernel := by
  constructor
  · trivial
  · intro choice
    change returned (react operation choice kernel).1 (react operation choice kernel).2
    rw [kept choice]
    exact holds choice

theorem safely_command {what : Command} {returned : Bool → Kernel → Prop}
    (holds : ∀ ok fresh, returned ok (kernel.after what ok fresh)) :
    Safely (command what) returned kernel := by
  constructor
  · trivial
  · rintro ⟨ok, fresh⟩
    exact holds ok fresh

end Rules

/-! ### What only looks -/

section Looking

variable {kernel : Kernel} (good : Good kernel)

include good

theorem safely_findLoop {name : Name} {found : Option Node} {all : List Node}
    {returned : Option Node → Kernel → Prop} (holds : ∀ found, returned found kernel) :
    Safely (findLoop name found all) returned kernel := by
  induction all generalizing found with
  | nil => exact holds found
  | cons node rest ih =>
      apply safely_bind
      apply safely_look
      · intro _
        rfl
      · intro works
        apply safely_ite
        · intro _
          apply safely_bind
          apply safely_orDie good
          intro _
          exact ih
        · intro _
          exact ih

theorem safely_findPart {name : Name} {returned : Node → Kernel → Prop}
    (holds : ∀ node, returned node kernel) : Safely (findPart name) returned kernel := by
  apply safely_bind
  apply safely_look
  · intro _
    rfl
  · intro _
    apply safely_bind
    apply safely_findLoop good
    intro found
    apply safely_bind
    apply safely_orMissing good
    intro node _
    apply safely_bind
    apply safely_look
    · intro _
      rfl
    · intro _
      apply safely_bind
      apply safely_orDie good
      intro _
      exact holds node

/-- The disk of a partition is there. -/
theorem safely_parentDisk {part : Node} {returned : Name → Kernel → Prop}
    (holds : (∃ block ∈ kernel.blocks, block.node = whole part.disk) →
      returned part.disk kernel) : Safely (parentDisk part) returned kernel := by
  apply safely_bind
  apply safely_look
  · intro _
    rfl
  · intro works
    apply safely_bind
    apply safely_orMissing good
    intro disk linked
    have same : disk = whole part.disk := by
      cases works with
      | false => cases linked
      | true => exact (Option.some.inj linked).symm
    apply safely_bind
    apply safely_look
    · intro _
      rfl
    · intro _
      apply safely_bind
      apply safely_orDie good
      intro present
      rw [same] at present ⊢
      apply holds
      obtain ⟨block, member, here⟩ := List.any_eq_true.mp present
      exact ⟨block, member, of_decide_eq_true here⟩

theorem safely_sectorSize {disk : Name} {returned : Nat → Kernel → Prop}
    (holds : ∀ size, returned size kernel) : Safely (sectorSize disk) returned kernel := by
  apply safely_bind
  apply safely_look
  · intro _
    rfl
  · intro _
    apply safely_bind
    apply safely_orMissing good
    intro size _
    apply safely_bind
    apply safely_orDie good
    intro _
    exact holds size

theorem safely_sectorCount {disk : Name} {returned : Nat → Kernel → Prop}
    (holds : ∀ size, returned size kernel) : Safely (sectorCount disk) returned kernel := by
  apply safely_bind
  apply safely_look
  · intro _
    rfl
  · intro _
    apply safely_bind
    apply safely_orMissing good
    intro size _
    apply safely_bind
    apply safely_sectorSize good
    intro unit
    exact holds (size * 512 / unit)

theorem safely_byteSize {part : Node} {returned : Nat → Kernel → Prop}
    (holds : ∀ size, returned size kernel) : Safely (byteSize part) returned kernel := by
  apply safely_bind
  apply safely_look
  · intro _
    rfl
  · intro _
    apply safely_bind
    apply safely_orMissing good
    intro size _
    exact holds (size * 512)

theorem safely_idleLoop {all : List Node} {returned : Unit → Kernel → Prop}
    (holds : returned () kernel) : Safely (idleLoop all) returned kernel := by
  induction all with
  | nil => exact holds
  | cons node rest ih =>
      apply safely_bind
      apply safely_look
      · intro _
        rfl
      · intro number
        cases number with
        | none => exact good
        | some number =>
            apply safely_bind
            apply safely_look
            · intro _
              rfl
            · intro _
              apply safely_bind
              apply safely_orDie good
              intro _
              exact ih

theorem safely_assertIdle {disk : Name} {returned : Unit → Kernel → Prop}
    (holds : returned () kernel) : Safely (assertIdle disk) returned kernel := by
  apply safely_bind
  apply safely_bind
  apply safely_look
  · intro _
    rfl
  · intro _
    exact safely_idleLoop good holds

theorem safely_stageHalf {sector : Nat} {half : Half} {returned : Unit → Kernel → Prop}
    (holds : returned () kernel) : Safely (stageHalf sector half) returned kernel := by
  apply safely_bind
  apply safely_look
  · intro _
    rfl
  · intro _
    apply safely_bind
    apply safely_orDie good
    intro _
    apply safely_bind
    apply safely_look
    · intro _
      rfl
    · intro _
      apply safely_bind
      apply safely_orDie good
      intro _
      apply safely_bind
      apply safely_look
      · intro _
        rfl
      · intro _
        apply safely_orDie good
        intro _
        exact holds

end Looking

/-! ### Sealing -/

/-- Only the listed nodes can still be writable. -/
structure Sealing (todo : List Node) (kernel : Kernel) : Prop where
  listed : ∀ block ∈ kernel.blocks, block.ro = false → block.node ∈ todo
  unharmed : Unharmed kernel.log

theorem Sealing.steady {kernel : Kernel} (sealing : Sealing [] kernel) : Steady kernel := by
  constructor
  · intro block member
    cases flag : block.ro with
    | true => rfl
    | false => cases sealing.listed block member flag
  · exact sealing.unharmed

theorem Opened.sealing {disk : Name} {kernel : Kernel} (opened : Opened disk kernel) :
    Sealing ((kernel.blocks.map Block.node).filter
      (fun node => disk.isPrefixOf node.name)) kernel := by
  constructor
  · intro block member writable
    have own : block.node.disk = disk := by
      apply Classical.byContradiction
      intro elsewhere
      rw [opened.others block member elsewhere] at writable
      cases writable
    apply List.mem_filter.mpr
    constructor
    · exact List.mem_map.mpr ⟨block, member, rfl⟩
    · rw [Node.name, own]
      exact List.isPrefixOf_iff_prefix.mpr (List.prefix_append _ _)
  · exact opened.unharmed

theorem Sealing.set {node : Node} {todo : List Node} {kernel : Kernel}
    (sealing : Sealing (node :: todo) kernel) (fresh : List Fresh) :
    Sealing todo (kernel.after (.setro node) true fresh) := by
  constructor
  · intro block member writable
    obtain ⟨before, was, same, flag⟩ := setFlag_mem member
    rcases flag with ⟨_, set⟩ | ⟨elsewhere, kept⟩
    · rw [set] at writable
      cases writable
    · rw [kept] at writable
      have listed := sealing.listed before was writable
      rw [← same] at listed
      rcases List.mem_cons.mp listed with here | later
      · exact absurd here elsewhere
      · exact later
  · exact unharmed_worked sealing.unharmed

theorem good_of_refused {kernel : Kernel} {node : Node} {fresh : List Fresh} :
    Good (kernel.after (.setro node) false fresh) := by
  intro worked
  exact absurd (List.mem_append_right _ (List.mem_singleton_self _)) (worked node)

theorem safely_setro {kernel : Kernel} {node : Node} {text : String} {α : Type}
    {next : Script α} {returned : α → Kernel → Prop}
    (holds : ∀ fresh, Safely next returned (kernel.after (.setro node) true fresh)) :
    Safely (do
      let ok ← command (.setro node)
      orDie ok text
      next) returned kernel := by
  apply safely_bind
  apply safely_command
  intro ok fresh
  cases ok with
  | false =>
      apply safely_bind
      apply safely_orDie good_of_refused
      intro impossible
      cases impossible
  | true => exact holds fresh

theorem safely_sealLoop {todo : List Node} {kernel : Kernel} {returned : Unit → Kernel → Prop}
    (sealing : Sealing todo kernel) (holds : ∀ after, Steady after → returned () after) :
    Safely (sealLoop todo) returned kernel := by
  induction todo generalizing kernel with
  | nil => exact holds kernel sealing.steady
  | cons node rest ih =>
      rw [sealLoop]
      apply safely_setro
      intro fresh
      exact ih (sealing.set fresh)

theorem Steady.sealing {kernel : Kernel} (steady : Steady kernel) (todo : List Node) :
    Sealing todo kernel := by
  constructor
  · intro block member writable
    rw [steady.readOnly block member] at writable
    cases writable
  · exact steady.unharmed

theorem safely_sealDisk {disk : Name} {kernel : Kernel} {returned : Unit → Kernel → Prop}
    (opened : Opened disk kernel) (holds : ∀ after, Steady after → returned () after) :
    Safely (sealDisk disk) returned kernel := by
  apply safely_bind
  apply safely_bind
  apply safely_look
  · intro _
    rfl
  · intro _
    apply safely_bind
    apply safely_sealLoop opened.sealing
    intro after steady
    apply safely_bind
    apply safely_command
    intro ok fresh
    cases ok with
    | false =>
        apply safely_orDie good_of_refused
        intro impossible
        cases impossible
    | true =>
        apply safely_orDie (((steady.sealing [whole disk]).set fresh).steady).good
        intro _
        exact holds _ ((steady.sealing [whole disk]).set fresh).steady

end Liuqin.Layout.Device
