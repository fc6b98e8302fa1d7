import Runix.Kernel.Frames
import Runix.Lib.Checked
import Mathlib.Algebra.Group.Nat.Defs
import Mathlib.Data.List.Infix

/-!
# Private pages of an address space

`process.rs`: a new space takes the level-4 entries of the active table, and the first page that
is mapped behind an entry detaches it.  The tables of a space are kept as what they map: the
pages behind the entries it was seeded with, and the pages it has mapped itself.  The bytes of a
table are not among the memory that is followed.

`map_to` of the crate `x86_64` draws one frame for each of the three tables on the way to a page
that is missing, and fails on a page that is mapped already.  Every failure is a panic.
-/

namespace Runix.Kernel

open Lib Lib.Checked List Action

abbrev PageBytes : Type := Fin frameSize → UInt8

/-- Every page that is mapped is `PRESENT`. -/
structure PageTableFlags where
  writable : Bool
  userAccessible : Bool
  noExecute : Bool
deriving DecidableEq

structure Mapping where
  frame : Nat
  flags : PageTableFlags
deriving DecidableEq

def p4Index (page : Nat) : Nat := page / 2 ^ 27 % 512

/-- The number of page bits below a table of level 3, 2 and 1. -/
def tableShifts : List Nat := [27, 18, 9]

structure AddressSpace where
  p4Frame : Nat
  seeded : Nat → Option Mapping
  detachedP4Slots : List Nat
  /-- The pages mapped behind the detached entries. -/
  mapped : List (Nat × Mapping)

def AddressSpace.translate (space : AddressSpace) (page : Nat) : Option Mapping :=
  if p4Index page ∈ space.detachedP4Slots then space.mapped.lookup page else space.seeded page

/-- The frames of the machine, with the table that is active. -/
structure KernelFrames where
  allocator : BootInfoFrameAllocator
  memory : Nat → PageBytes
  active : Nat → Option Mapping

structure LoadState where
  allocator : BootInfoFrameAllocator
  memory : Nat → PageBytes
  space : AddressSpace

/-- The space, and the allocator without the frame of its level-4 table. -/
def AddressSpace.new (kernel : KernelFrames) : Option LoadState :=
  kernel.allocator.allocateFrame.1.map fun p4Frame =>
    { allocator := kernel.allocator.allocateFrame.2
      memory := kernel.memory
      space := ⟨p4Frame, kernel.active, [], []⟩ }

/-- The tables on the way to a page that no earlier page has needed. -/
def missingTables (pages : List Nat) (page : Nat) : List Nat :=
  tableShifts.filter fun shift => ∀ other ∈ pages, other / 2 ^ shift ≠ page / 2 ^ shift

section Mapping

variable {Error : Type}

/-- `allocate_frame().expect(..)`. -/
def drawFrame : Action LoadState Error Nat :=
  ExceptT.mk fun state =>
    (orPanic state.allocator.allocateFrame.1,
      { state with allocator := state.allocator.allocateFrame.2 })

def drawFrames : Nat → Action LoadState Error Unit
  | 0 => return ()
  | count + 1 => do
      let _ ← drawFrame
      drawFrames count

/-- The tables `map_to` creates; only the frames they take matter. -/
def createTables (page : Nat) : Action LoadState Error Unit := do
  let state ← get
  drawFrames (missingTables (state.space.mapped.map Prod.fst) page).length

def detach (page : Nat) (space : AddressSpace) : AddressSpace :=
  if p4Index page ∈ space.detachedP4Slots then space
  else { space with detachedP4Slots := p4Index page :: space.detachedP4Slots }

def mapFrame (page frame : Nat) (flags : PageTableFlags) : Action LoadState Error Unit := do
  modify fun state => { state with space := detach page state.space }
  createTables page
  let state ← get
  checked (if state.space.mapped.lookup page = none then .ok () else panicked)
  modify fun state => { state with
    space := { state.space with mapped := state.space.mapped ++ [(page, ⟨frame, flags⟩)] } }

/-- The frame behind the page: its bytes are what the source hands back. -/
def mapPrivatePage (page : Nat) (flags : PageTableFlags) : Action LoadState Error Nat := do
  let frame ← drawFrame
  mapFrame page frame flags
  return frame

/-- A page that is to be mapped, and the bytes that are written to all of it, if any. -/
structure LaidPage where
  page : Nat
  flags : PageTableFlags
  bytes : Option PageBytes

/-- `map_private_page`, and what the caller writes to the page. -/
def layPage (laid : LaidPage) : Action LoadState Error Unit := do
  let frame ← mapPrivatePage laid.page laid.flags
  match laid.bytes with
  | none => return ()
  | some bytes =>
    modify fun state => { state with memory := Function.update state.memory frame bytes }

end Mapping

def layAll {Error : Type} (pages : List LaidPage) : Action LoadState Error Unit :=
  pages.forM layPage

/-! ## One page -/

abbrev KernelFrames.supply (kernel : KernelFrames) : List Nat := kernel.allocator.supply

abbrev LoadState.supply (state : LoadState) : List Nat := state.allocator.supply

section Steps

variable (Error : Type) (state : LoadState)

theorem drawFrame_exactly :
    Action.Exactly (drawFrame : Action LoadState Error Nat) state (state.supply ≠ [])
      fun frame after => state.supply = frame :: after.supply ∧
        after.memory = state.memory ∧ after.space = state.space := by
  have first := state.allocator.allocateFrame_fst
  have rest := state.allocator.allocateFrame_supply
  apply exactly_of_run
  unfold drawFrame
  dsimp only [ExceptT.run_mk, StateT.run, LoadState.supply]
  rw [first]
  cases supplied : state.allocator.supply with
  | nil => exact not_not.mpr rfl
  | cons frame others =>
    rw [supplied] at rest
    exact ⟨cons_ne_nil _ _, by rw [rest]; rfl, rfl, rfl⟩

theorem drawFrames_exactly (count : Nat) :
    Action.Exactly (drawFrames count : Action LoadState Error Unit) state
      (count ≤ state.supply.length)
      fun _ after => after.supply = state.supply.drop count ∧
        after.memory = state.memory ∧ after.space = state.space := by
  induction count generalizing state with
  | zero =>
    apply (exactly_pure _).mono
    · exact iff_of_true trivial (Nat.zero_le _)
    · exact fun _ _ known => known
    · exact ⟨rfl, rfl, rfl⟩
  | succ count ih =>
    have both : state.supply ≠ [] ∧ count + 1 ≤ state.supply.length ↔
        count + 1 ≤ state.supply.length := by
      rw [← length_pos_iff]
      omega
    refine ((drawFrame_exactly Error state).bind ?_).mono both fun _ _ known => known
    intro frame after _ ⟨supplied, memory, space⟩
    apply (ih after).mono
    · rw [supplied, length_cons]
      omega
    · intro _ final ⟨dropped, kept, same⟩
      rw [dropped, kept, same, supplied]
      exact ⟨rfl, memory, space⟩

theorem createTables_exactly (page : Nat) :
    Action.Exactly (createTables page : Action LoadState Error Unit) state
      ((missingTables (state.space.mapped.map Prod.fst) page).length ≤ state.supply.length)
      fun _ after => after.supply =
          state.supply.drop (missingTables (state.space.mapped.map Prod.fst) page).length ∧
        after.memory = state.memory ∧ after.space = state.space :=
  exactly_get_bind (drawFrames_exactly Error state _)

def AddressSpace.withPage (space : AddressSpace) (page frame : Nat) (flags : PageTableFlags) :
    AddressSpace :=
  { detach page space with mapped := space.mapped ++ [(page, ⟨frame, flags⟩)] }

theorem detach_mapped (page : Nat) (space : AddressSpace) :
    (detach page space).mapped = space.mapped := by
  unfold detach
  split <;> rfl

theorem mapFrame_exactly (page frame : Nat) (flags : PageTableFlags) :
    Action.Exactly (mapFrame page frame flags : Action LoadState Error Unit) state
      ((missingTables (state.space.mapped.map Prod.fst) page).length ≤ state.supply.length ∧
        state.space.mapped.lookup page = none)
      fun _ after => after.supply =
          state.supply.drop (missingTables (state.space.mapped.map Prod.fst) page).length ∧
        after.memory = state.memory ∧ after.space = state.space.withPage page frame flags := by
  apply exactly_modify_bind
  have created := createTables_exactly Error { state with space := detach page state.space } page
  rw [detach_mapped] at created
  apply created.bind
  intro _ middle _ ⟨dropped, memory, space⟩
  apply exactly_get_bind
  have lookup : middle.space.mapped.lookup page = state.space.mapped.lookup page := by
    rw [space, detach_mapped]
  have unmapped : (if middle.space.mapped.lookup page = none then .ok ()
      else panicked : Outcome Error Unit).isOk = true ∧ True ↔
        state.space.mapped.lookup page = none := by
    rw [lookup]
    by_cases free : state.space.mapped.lookup page = none
    · rw [if_pos free]
      exact iff_of_true ⟨rfl, trivial⟩ free
    · rw [if_neg free]
      exact iff_of_false (fun both => Bool.false_ne_true both.1) free
  refine (exactly_checked_bind fun _ _ => exactly_modify ?_).mono unmapped
    fun _ _ known => known
  refine ⟨dropped, memory, ?_⟩
  rw [space, detach_mapped]
  rfl

theorem mapPrivatePage_exactly (page : Nat) (flags : PageTableFlags) :
    Action.Exactly (mapPrivatePage page flags : Action LoadState Error Nat) state
      ((missingTables (state.space.mapped.map Prod.fst) page).length < state.supply.length ∧
        state.space.mapped.lookup page = none)
      fun frame after =>
        state.supply.head? = some frame ∧
        after.supply = state.supply.drop
          ((missingTables (state.space.mapped.map Prod.fst) page).length + 1) ∧
        after.memory = state.memory ∧ after.space = state.space.withPage page frame flags := by
  have both : state.supply ≠ [] ∧
      ((missingTables (state.space.mapped.map Prod.fst) page).length < state.supply.length ∧
        state.space.mapped.lookup page = none) ↔
      (missingTables (state.space.mapped.map Prod.fst) page).length < state.supply.length ∧
        state.space.mapped.lookup page = none := by
    apply and_iff_right_of_imp
    rintro ⟨enough, -⟩
    exact length_pos_iff.mp (Nat.zero_lt_of_lt enough)
  refine ((drawFrame_exactly Error state).bind ?_).mono both fun _ _ known => known
  intro frame middle _ ⟨supplied, memory, space⟩
  have mapped := mapFrame_exactly Error middle page frame flags
  rw [space] at mapped
  have enough : ((missingTables (state.space.mapped.map Prod.fst) page).length ≤
      middle.supply.length ∧ state.space.mapped.lookup page = none) ∧ True ↔
      (missingTables (state.space.mapped.map Prod.fst) page).length < state.supply.length ∧
        state.space.mapped.lookup page = none := by
    rw [and_true, supplied, length_cons, Nat.lt_succ_iff]
  refine (mapped.bind ?_).mono enough fun _ _ known => known
  intro _ after _ ⟨dropped, kept, placed⟩
  apply exactly_pure
  rw [supplied, drop_succ_cons]
  exact ⟨rfl, dropped, kept.trans memory, placed⟩

end Steps

/-! ## Pages in turn -/

/-- The frames that pages take which are mapped after the given ones: for each its own and those
of its tables. -/
def drawnAfter (pages : List Nat) : List Nat → Nat
  | [] => 0
  | page :: rest => 1 + (missingTables pages page).length + drawnAfter (pages ++ [page]) rest

def framesDrawn (pages : List Nat) : Nat := drawnAfter [] pages

theorem drawnAfter_append (pages first second : List Nat) :
    drawnAfter pages (first ++ second) =
      drawnAfter pages first + drawnAfter (pages ++ first) second := by
  induction first generalizing pages with
  | nil => simp [drawnAfter]
  | cons page rest ih =>
    rw [cons_append, drawnAfter, drawnAfter, ih, append_assoc, singleton_append]
    omega

theorem framesDrawn_append (pages : List Nat) (page : Nat) :
    framesDrawn (pages ++ [page]) = framesDrawn pages + 1 + (missingTables pages page).length := by
  unfold framesDrawn
  rw [drawnAfter_append, nil_append, Nat.add_assoc]
  rfl

/-- There is a frame for every page and for every table, and no page comes twice. -/
def Fits (kernel : KernelFrames) (laid : List LaidPage) : Prop :=
  (laid.map LaidPage.page).Nodup ∧
    1 + framesDrawn (laid.map LaidPage.page) ≤ kernel.supply.length

/-- The space once the pages have been mapped in turn.  A page has the frame that is found at its
place in the supply, with the bytes that were written to it or else those it had before. -/
structure Laid (kernel : KernelFrames) (state : LoadState) (laid : List LaidPage) : Prop where
  fits : Fits kernel laid
  supply : state.supply = kernel.supply.drop (1 + framesDrawn (laid.map LaidPage.page))
  keys : state.space.mapped.map Prod.fst = laid.map LaidPage.page
  seeded : state.space.seeded = kernel.active
  slots : ∀ slot, slot ∈ state.space.detachedP4Slots ↔ ∃ page ∈ laid, p4Index page.page = slot
  placed : ∀ before page, before ++ [page] <+: laid →
    ∃ frame, kernel.supply[1 + framesDrawn (before.map LaidPage.page)]? = some frame ∧
      state.space.mapped.lookup page.page = some ⟨frame, page.flags⟩ ∧ frame ∉ state.supply ∧
      state.memory frame = page.bytes.getD (kernel.memory frame)
  untouched : ∀ frame, frame ∉ kernel.supply ∨ frame ∈ state.supply →
    state.memory frame = kernel.memory frame

theorem lookup_eq_none_iff_keys {entries : List (Nat × Mapping)} {page : Nat} :
    entries.lookup page = none ↔ page ∉ entries.map Prod.fst := by
  rw [lookup_eq_none_iff, mem_map, not_exists]
  constructor
  · rintro absent entry ⟨listed, rfl⟩
    simpa using absent entry listed
  · intro absent entry listed
    rw [bne_iff_ne]
    intro same
    exact absent entry ⟨listed, same.symm⟩

theorem mem_detach_iff {page slot : Nat} {space : AddressSpace} :
    slot ∈ (detach page space).detachedP4Slots ↔
      slot ∈ space.detachedP4Slots ∨ p4Index page = slot := by
  unfold detach
  split
  case isTrue there =>
    constructor
    · exact .inl
    · rintro (old | rfl)
      · exact old
      · exact there
  case isFalse =>
    rw [mem_cons, or_comm, eq_comm]

namespace Laid

variable {kernel : KernelFrames} {state after : LoadState} {laid : List LaidPage}

section

variable (held : Laid kernel state laid)

include held

theorem supply_length :
    state.supply.length + (1 + framesDrawn (laid.map LaidPage.page)) = kernel.supply.length := by
  rw [held.supply, length_drop]
  exact Nat.sub_add_cancel held.fits.2

theorem fits_append_iff (page : LaidPage) :
    ((missingTables (state.space.mapped.map Prod.fst) page.page).length < state.supply.length ∧
      state.space.mapped.lookup page.page = none) ↔ Fits kernel (laid ++ [page]) := by
  have length := held.supply_length
  unfold Fits
  rw [lookup_eq_none_iff_keys, held.keys, map_append, map_singleton, framesDrawn_append,
    nodup_append_comm, singleton_append, nodup_cons]
  constructor
  · rintro ⟨enough, fresh⟩
    exact ⟨⟨fresh, held.fits.1⟩, by omega⟩
  · rintro ⟨⟨fresh, -⟩, enough⟩
    exact ⟨by omega, fresh⟩

theorem next_frame {frame : Nat} (next : state.supply.head? = some frame) :
    kernel.supply[1 + framesDrawn (laid.map LaidPage.page)]? = some frame := by
  rw [← next, held.supply, List.head?_drop]

/-- One page more: `written` is its bytes, and the other frames are as they were. -/
theorem lay (nodup : kernel.supply.Nodup) {page : LaidPage}
    {frame : Nat} (fits : Fits kernel (laid ++ [page])) (next : state.supply.head? = some frame)
    (supply : after.supply = state.supply.drop
      ((missingTables (state.space.mapped.map Prod.fst) page.page).length + 1))
    (space : after.space = state.space.withPage page.page frame page.flags)
    (written : after.memory frame = page.bytes.getD (state.memory frame))
    (kept : ∀ other ≠ frame, after.memory other = state.memory other) :
    Laid kernel after (laid ++ [page]) := by
  obtain ⟨rest, supplied⟩ := List.head?_eq_some_iff.mp next
  have fewer : ∀ other ∈ after.supply, other ∈ rest := by
    intro other listed
    rw [supply, supplied, drop_succ_cons] at listed
    exact mem_of_mem_drop listed
  have own : frame ∉ rest := by
    have distinct := nodup.sublist (drop_sublist
      (1 + framesDrawn (laid.map LaidPage.page)) kernel.supply)
    rw [← held.supply, supplied] at distinct
    exact (nodup_cons.mp distinct).1
  have stillThere : ∀ other ∈ after.supply, other ∈ state.supply := by
    intro other listed
    rw [supplied]
    exact mem_cons_of_mem _ (fewer other listed)
  have nextThere : frame ∈ state.supply := mem_of_mem_head? next
  refine ⟨fits, ?_, ?_, ?_, ?_, ?_, ?_⟩
  · rw [supply, held.supply, drop_drop, held.keys, map_append, map_singleton,
      framesDrawn_append]
    congr 1
    omega
  · rw [space, map_append, ← held.keys]
    exact map_append
  · rw [space, ← held.seeded]
    unfold AddressSpace.withPage detach
    split <;> rfl
  · intro slot
    rw [space]
    unfold AddressSpace.withPage
    rw [mem_detach_iff, held.slots]
    simp [or_and_right, exists_or]
  · intro before other listed
    rw [space]
    unfold AddressSpace.withPage
    rw [lookup_append]
    rcases prefix_concat_iff.mp listed with whole | part
    · obtain ⟨rfl, single⟩ := append_inj' whole rfl
      cases single
      refine ⟨frame, held.next_frame next, ?_, fun there => own (fewer frame there), ?_⟩
      · rw [((held.fits_append_iff page).mpr fits).2]
        simp
      · rw [written, held.untouched frame (.inr nextThere)]
    · obtain ⟨old, place, found, away, bytes⟩ := held.placed before other part
      refine ⟨old, place, ?_, fun there => away (stillThere old there), ?_⟩
      · rw [found]
        rfl
      · rw [kept old fun same => away (same ▸ nextThere), bytes]
  · intro other known
    have different : other ≠ frame := by
      rintro rfl
      rcases known with outside | there
      · exact outside (mem_of_getElem? (held.next_frame next))
      · exact own (fewer other there)
    rw [kept other different]
    exact held.untouched other (known.imp_right (stillThere other))

end

theorem layPage_exactly (Error : Type) (held : Laid kernel state laid) (nodup : kernel.supply.Nodup)
    (page : LaidPage) :
    Action.Exactly (layPage page : Action LoadState Error Unit) state (Fits kernel (laid ++ [page]))
      fun _ after => Laid kernel after (laid ++ [page]) := by
  have fits := held.fits_append_iff page
  refine ((mapPrivatePage_exactly Error state page.page page.flags).bind ?_).mono
    (and_iff_left trivial |>.trans fits) fun _ _ known => known
  intro frame after possible ⟨next, supply, memory, space⟩
  cases written : page.bytes with
  | none =>
    apply exactly_pure
    apply held.lay nodup (fits.mp possible) next supply space
    · rw [written, memory]
      rfl
    · intro other _
      rw [memory]
  | some bytes =>
    apply exactly_modify
    refine @lay kernel state _ laid held nodup page frame (fits.mp possible) next supply space ?_ ?_
    · rw [written]
      exact Function.update_self _ _ _
    · intro other different
      exact (Function.update_of_ne different _ _).trans (congrFun memory other)

end Laid

variable {kernel : KernelFrames}

theorem Fits.left {first second : List LaidPage}
    (fits : Fits kernel (first ++ second)) : Fits kernel first := by
  obtain ⟨nodup, enough⟩ := fits
  rw [map_append] at nodup enough
  refine ⟨nodup.sublist (sublist_append_left _ _), ?_⟩
  unfold framesDrawn at *
  rw [drawnAfter_append] at enough
  omega

/-- The action maps the given pages: it succeeds if and only if they fit and its own condition
holds. -/
def Lays {Error Value : Type} (kernel : KernelFrames) (action : Action LoadState Error Value)
    (possible : Prop) (pages : List LaidPage) : Prop :=
  ∀ state laid, Laid kernel state laid →
    Action.Exactly action state (possible ∧ Fits kernel (laid ++ pages))
      fun _ after => Laid kernel after (laid ++ pages)

namespace Lays

variable {Error Value Other Item : Type} {kernel : KernelFrames} {possible further : Prop}
  {pages more : List LaidPage}

theorem layPage (nodup : kernel.supply.Nodup) (page : LaidPage) :
    Lays kernel (layPage page : Action LoadState Error Unit) True [page] := by
  intro state laid held
  exact (held.layPage_exactly Error nodup page).mono (and_iff_right trivial).symm
    fun _ _ known => known

variable {action : Action LoadState Error Value}

theorem congr (lays : Lays kernel action possible pages)
    (same : possible ↔ further) : Lays kernel action further pages := by
  rw [propext same] at lays
  exact lays

theorem pure (value : Value) :
    Lays kernel (Pure.pure value : Action LoadState Error Value) True [] := by
  intro state laid held
  rw [append_nil]
  have nothing : Action.Exactly (Pure.pure value : Action LoadState Error Value) state True
      fun _ after => Laid kernel after laid := exactly_pure held
  exact nothing.mono (iff_of_true trivial ⟨trivial, held.fits⟩) fun _ _ known => known

variable {next : Value → Action LoadState Error Other}

theorem bind (first : Lays kernel action possible pages)
    (second : ∀ value, Lays kernel (next value) further more) :
    Lays kernel (action >>= next) (possible ∧ further) (pages ++ more) := by
  intro state laid held
  have both : (possible ∧ Fits kernel (laid ++ pages)) ∧
      (further ∧ Fits kernel ((laid ++ pages) ++ more)) ↔
        (possible ∧ further) ∧ Fits kernel ((laid ++ pages) ++ more) := by
    constructor
    · rintro ⟨⟨one, -⟩, two, fits⟩
      exact ⟨⟨one, two⟩, fits⟩
    · rintro ⟨⟨one, two⟩, fits⟩
      exact ⟨⟨one, fits.left⟩, two, fits⟩
  rw [← append_assoc]
  refine ((first state laid held).bind ?_).mono both fun _ _ known => known
  intro value middle _ mapped
  exact second value middle (laid ++ pages) mapped

theorem checked {outcome : Outcome Error Value}
    (second : ∀ value, outcome = .ok value → Lays kernel (next value) possible pages) :
    Lays kernel (Checked.checked outcome >>= next) (outcome.isOk = true ∧ possible) pages := by
  intro state laid held
  rw [and_assoc]
  apply exactly_checked_bind
  intro value result
  exact second value result state laid held

theorem check (outcome : Outcome Error Value) :
    Lays kernel (Checked.checked outcome) (outcome.isOk = true) [] := by
  have alone : Lays kernel (Checked.checked outcome >>= Pure.pure)
      (outcome.isOk = true ∧ True) [] := Lays.checked fun value _ => Lays.pure value
  rw [bind_pure] at alone
  exact alone.congr (and_iff_left trivial)

theorem forM {step : Item → Action LoadState Error Unit} {condition : Item → Prop}
    {laidBy : Item → List LaidPage} {items : List Item}
    (each : ∀ item ∈ items, Lays kernel (step item) (condition item) (laidBy item)) :
    Lays kernel (items.forM step) (∀ item ∈ items, condition item) (items.flatMap laidBy) := by
  induction items with
  | nil =>
    intro state laid held
    apply (Lays.pure () state laid held).mono _ fun _ _ known => known
    simp
  | cons item rest ih =>
    have later := ih fun other listed => each other (mem_cons_of_mem _ listed)
    have both := (each item mem_cons_self).bind fun _ => later
    intro state laid held
    apply (both state laid held).mono _ fun _ _ known => known
    rw [forall_mem_cons, flatMap_cons]

end Lays

theorem layAll_lays {Error : Type} (nodup : kernel.supply.Nodup) (pages : List LaidPage) :
    Lays kernel (layAll pages : Action LoadState Error Unit) True pages := by
  have each : Lays kernel (pages.forM layPage : Action LoadState Error Unit)
      (∀ page ∈ pages, True) (pages.flatMap fun page => [page]) :=
    Lays.forM fun page _ => Lays.layPage nodup page
  intro state laid held
  have whole := each state laid held
  rw [flatMap_singleton'] at whole
  exact whole.mono (by simp) fun _ _ known => known

theorem AddressSpace.new_laid {state : LoadState}
    (made : AddressSpace.new kernel = some state) : Laid kernel state [] := by
  unfold AddressSpace.new at made
  rw [kernel.allocator.allocateFrame_fst] at made
  obtain ⟨p4Frame, first, rfl⟩ := Option.map_eq_some_iff.mp made
  obtain ⟨rest, supplied⟩ := List.head?_eq_some_iff.mp first
  refine ⟨⟨nodup_nil, ?_⟩, ?_, rfl, rfl, ?_, ?_, fun _ _ => rfl⟩
  · change 1 ≤ kernel.allocator.supply.length
    rw [supplied]
    exact Nat.succ_pos _
  · change kernel.allocator.allocateFrame.2.supply = _
    rw [kernel.allocator.allocateFrame_supply, ← drop_one]
    rfl
  · simp
  · intro before page listed
    have length := listed.length_le
    simp at length

end Runix.Kernel
