import ImageSearch.BackupAccounts

namespace ImageSearch.WholeBackups
open Transitions ExportPipelines ExportWindows PipelineFacts RunAccounts BackupAccounts
open PhoneRuns (TransferPhase)

variable {settings : Settings} {r next : Run} {input : Input} {source assets : List String} {start cursor : Nat}

-- Of the photos that are in both lists none has moved past the cursor, and there are as many.
def SameSides (source : List String) (cursor : Nat) (assets : List String) : Prop :=
  assets.length = source.length ∧ ∀ a ∈ assets, a ∈ source → (a ∈ assets.take cursor ↔ a ∈ source.take cursor)

instance : Decidable (SameSides source cursor assets) := inferInstanceAs (Decidable (_ ∧ _))

-- Where the library is read again within a run, it is still accessible and no photo has
-- changed sides; and no export that throws leaves a file.
def keepsPlaces (r : Run) (input : Input) : Bool :=
  match r.position,input with
  | .fetching none,.fetch authorized => authorized
  | .fetching (some cursor),.fetch authorized =>
    r.cachedFetchResult.isSome || authorized && SameSides r.source cursor r.library.assets
  | _,input => !leaks input

def batchAt (source : List String) (start : Nat) : TransferAssetBatch :=
  ⟨(source.drop start).take assetFetchBatchSize,
    if start + assetFetchBatchSize < source.length then some (start + assetFetchBatchSize) else none,source.length⟩

theorem fetched_batch (library : Library) (cursor : Option Nat) :
    fetchAssetBatch (some library) cursor assetFetchBatchSize = batchAt library.assets (cursor.getD 0) := by
  unfold fetchAssetBatch batchAt
  dsimp only
  generalize cursor.getD 0 = start
  split
  · rename_i within
    have length : (library.assets.drop start).length = library.assets.length - start := List.length_drop
    congr 1
    · rw [List.take_eq_take_iff,length]
      omega
    · by_cases more : start + assetFetchBatchSize < library.assets.length
      · have least : min (start + assetFetchBatchSize) library.assets.length = start + assetFetchBatchSize :=
          Nat.min_eq_left (Nat.le_of_lt more)
        rw [least]
      · have least : min (start + assetFetchBatchSize) library.assets.length = library.assets.length :=
          Nat.min_eq_right (Nat.le_of_not_lt more)
        rw [least,if_neg (Nat.lt_irrefl _),if_neg more]
  · rename_i past
    have none_ : library.assets.drop start = [] := List.drop_eq_nil_of_le (Nat.le_of_not_lt past)
    rw [none_,if_neg (by omega)]
    rfl

-- What has been launched is, of the photos still there, what lies before the cursor.
structure Even (r : Run) : Prop where
  sourced : ∀ a ∈ r.present, a ∈ r.source
  counts : ∀ a ∈ r.present, r.production.launched.count a = (r.source.take r.production.launched.length).count a
  announced : r.totalCount = r.source.length

structure Fresh (r : Run) : Prop where
  sourced : ∀ a ∈ r.present, a ∈ r.source
  launched : r.production.launched = []
  batch : r.assetBatch = batchAt r.source 0

structure Midway (r : Run) (earlier : List String) : Prop where
  sourced : ∀ a ∈ r.present, a ∈ r.source
  counts : ∀ a ∈ r.present, earlier.count a = (r.source.take earlier.length).count a
  announced : r.totalCount = r.source.length
  batch : r.assetBatch = batchAt r.source earlier.length
  within : earlier.length < r.source.length
  assets : r.production.assets = r.assetBatch.descriptors
  follows : Follows earlier r.production

def Covers (r : Run) : Position → Prop
  | .loading | .resetting _ | .fetching none => r.production.launched = [] ∧ r.totalCount = 0
  | .fetched none => Fresh r ∧ r.totalCount = 0
  | .exchanging | .starting | .opening => Fresh r ∧ r.totalCount = r.source.length
  | .fetching (some cursor) => Even r ∧ r.production.launched.length = cursor ∧ cursor < r.source.length
  | .fetched (some cursor) => Even r ∧ r.production.launched.length = cursor ∧ cursor < r.source.length ∧
      r.assetBatch = batchAt r.source cursor
  | .transferring => ∃ earlier, Midway r earlier
  | .closing | .finalizing .transferring | .ended .transferring => Even r ∧ r.production.launched.length = r.source.length
  | .emptying | .finalizing .completed | .ended .completed => r.present = [] ∧ r.production.launched = [] ∧ r.totalCount = 0
  | _ => True

structure Covered (r : Run) : Prop where
  held : ∀ a ∈ r.present, a ∈ r.library.assets
  distinct : r.source.Nodup
  cached : ∀ library, r.cachedFetchResult = some library → library.assets = r.source
  covers : Covers r r.position

theorem covered_begun (library : Library) : Covered (begun library) :=
  ⟨fun _ => id,List.nodup_nil,fun _ none_ => (nomatch none_),rfl,rfl⟩

-- Fewer photos that have stayed ask for less, and nothing else of the run counts.
structure Fewer (r next : Run) : Prop where
  present : ∀ a ∈ next.present, a ∈ r.present
  source : next.source = r.source
  totalCount : next.totalCount = r.totalCount
  assetBatch : next.assetBatch = r.assetBatch
  production : next.production = r.production

theorem fewer_even (fewer : Fewer r next) (even : Even r) : Even next := by
  obtain ⟨sourced,counts,announced⟩ := even
  refine ⟨fun a there => ?_,fun a there => ?_,?_⟩
  · rw [fewer.source]; exact sourced a (fewer.present a there)
  · rw [fewer.source,fewer.production]; exact counts a (fewer.present a there)
  · rw [fewer.source,fewer.totalCount]; exact announced

theorem fewer_fresh (fewer : Fewer r next) (fresh : Fresh r) : Fresh next := by
  refine ⟨fun a there => ?_,?_,?_⟩
  · rw [fewer.source]; exact fresh.sourced a (fewer.present a there)
  · rw [fewer.production]; exact fresh.launched
  · rw [fewer.assetBatch,fewer.source]; exact fresh.batch

theorem fewer_none (fewer : Fewer r next) (none_ : r.present = []) : next.present = [] := by
  apply List.eq_nil_iff_forall_not_mem.mpr
  intro a there
  have absurd := fewer.present a there
  rw [none_] at absurd
  cases absurd

theorem fewer_covers (fewer : Fewer r next) {position : Position} (covers : Covers r position) : Covers next position := by
  have even := fewer_even fewer
  have fresh := fewer_fresh fewer
  have none_ := fewer_none fewer
  cases position with
  | loading | resetting found =>
    exact ⟨by rw [fewer.production]; exact covers.1,by rw [fewer.totalCount]; exact covers.2⟩
  | fetching cursor => cases cursor with
    | none => exact ⟨by rw [fewer.production]; exact covers.1,by rw [fewer.totalCount]; exact covers.2⟩
    | some cursor =>
      obtain ⟨even_,at_,within⟩ := covers
      exact ⟨even even_,by rw [fewer.production]; exact at_,by rw [fewer.source]; exact within⟩
  | fetched cursor => cases cursor with
    | none => exact ⟨fresh covers.1,by rw [fewer.totalCount]; exact covers.2⟩
    | some cursor =>
      obtain ⟨even_,at_,within,batch⟩ := covers
      exact ⟨even even_,by rw [fewer.production]; exact at_,by rw [fewer.source]; exact within,
        by rw [fewer.assetBatch,fewer.source]; exact batch⟩
  | exchanging | starting | opening =>
    exact ⟨fresh covers.1,by rw [fewer.totalCount,fewer.source]; exact covers.2⟩
  | transferring =>
    obtain ⟨earlier,midway⟩ := covers
    refine ⟨earlier,fun a there => ?_,fun a there => ?_,?_,?_,?_,?_,?_⟩
    · rw [fewer.source]; exact midway.sourced a (fewer.present a there)
    · rw [fewer.source]; exact midway.counts a (fewer.present a there)
    · rw [fewer.totalCount,fewer.source]; exact midway.announced
    · rw [fewer.assetBatch,fewer.source]; exact midway.batch
    · rw [fewer.source]; exact midway.within
    · rw [fewer.production,fewer.assetBatch]; exact midway.assets
    · rw [fewer.production]; exact midway.follows
  | closing => exact ⟨even covers.1,by rw [fewer.production,fewer.source]; exact covers.2⟩
  | emptying =>
    exact ⟨none_ covers.1,by rw [fewer.production]; exact covers.2.1,by rw [fewer.totalCount]; exact covers.2.2⟩
  | finalizing phase | ended phase => cases phase with
    | transferring => exact ⟨even covers.1,by rw [fewer.production,fewer.source]; exact covers.2⟩
    | completed =>
      exact ⟨none_ covers.1,by rw [fewer.production]; exact covers.2.1,by rw [fewer.totalCount]; exact covers.2.2⟩
    | preparing | stopped | failed => trivial
  | reporting | pausing | failing => trivial

theorem batch_launched (source : List String) (start : Nat) :
    source.take (start + (batchAt source start).descriptors.length) = source.take start ++ (batchAt source start).descriptors := by
  rw [List.take_add]
  congr 1
  change (source.drop start).take ((source.drop start).take assetFetchBatchSize).length = (source.drop start).take assetFetchBatchSize
  rw [List.take_eq_take_iff,List.length_take]
  omega

theorem batch_length (source : List String) (start : Nat) :
    (batchAt source start).descriptors.length = min assetFetchBatchSize (source.length - start) := by
  rw [batchAt,List.length_take,List.length_drop]

theorem next_covers {start : Nat} (sourced : ∀ a ∈ r.present, a ∈ r.source)
    (counts : ∀ a ∈ r.present, r.production.launched.count a = (r.source.take r.production.launched.length).count a)
    (announced : r.totalCount = r.source.length) (batch : r.assetBatch = batchAt r.source start) (within : start ≤ r.source.length)
    (all : r.production.launched.length = start + r.assetBatch.descriptors.length) : Covers r.nextBatch r.nextBatch.position := by
  have even : Even r := ⟨sourced,counts,announced⟩
  rw [batch,batch_length] at all
  unfold Run.nextBatch
  split
  · rename_i last
    rw [batch,batchAt] at last
    dsimp only at last
    split at last
    · cases last
    · have length : r.production.launched.length = r.source.length := by omega
      exact ⟨⟨even.sourced,even.counts,even.announced⟩,length⟩
  · rename_i nextCursor more
    rw [batch,batchAt] at more
    dsimp only at more
    split at more
    · cases more
      have length : r.production.launched.length = start + assetFetchBatchSize := by omega
      exact ⟨⟨even.sourced,even.counts,even.announced⟩,length,‹_›⟩
    · cases more

theorem midway_end {earlier : List String} (midway : Midway r earlier)
    (all : r.production.nextAssetIndex = r.production.assets.length) : Covers r.nextBatch r.nextBatch.position := by
  have follows : r.production.launched = earlier ++ r.assetBatch.descriptors := by
    have follows := midway.follows
    unfold Follows at follows
    rw [follows,all,List.take_length,midway.assets]
  have length : r.production.launched.length = earlier.length + r.assetBatch.descriptors.length := by
    rw [follows,List.length_append]
  refine next_covers midway.sourced (fun a there => ?_) midway.announced midway.batch (Nat.le_of_lt midway.within) length
  rw [length,midway.batch,batch_launched,follows,midway.batch,List.count_append,List.count_append,midway.counts a there]

theorem transfer_covers (sourced : ∀ a ∈ r.present, a ∈ r.source)
    (counts : ∀ a ∈ r.present, r.production.launched.count a = (r.source.take r.production.launched.length).count a)
    (announced : r.totalCount = r.source.length) (within : r.production.launched.length ≤ r.source.length)
    (batch : r.assetBatch = batchAt r.source r.production.launched.length) :
    Covers r.transferBatch r.transferBatch.position := by
  unfold Run.transferBatch
  split
  · rename_i empty
    exact next_covers sourced counts announced batch within (by rw [empty]; rfl)
  · rename_i some_
    have more : r.production.launched.length < r.source.length := by
      by_contra past
      apply some_
      rw [batch]
      exact List.eq_nil_of_length_eq_zero (by rw [batch_length]; omega)
    refine ⟨r.production.launched,sourced,counts,announced,batch,more,rfl,?_⟩
    exact (List.append_nil _).symm

theorem sides_count {assets : List String} (sides : SameSides source cursor assets) (distinct : source.Nodup)
    (distinct' : assets.Nodup) {a : String} (old : a ∈ source) (new : a ∈ assets) :
    (source.take cursor).count a = (assets.take cursor).count a := by
  have same := sides.2 a new old
  rw [(distinct.sublist (List.take_sublist _ _)).count,(distinct'.sublist (List.take_sublist _ _)).count]
  simp [same]

theorem covered_pipeline (sound : Sound r) (covered : Covered r) (at_ : r.position = .transferring)
    (taken : stepPipeline settings r input = some next) : Covered next := by
  have framed := framed_pipeline taken
  have covers := covered.covers
  rw [at_] at covers
  obtain ⟨earlier,midway⟩ := covers
  refine ⟨?_,?_,?_,?_⟩
  · rw [framed.present,framed.library]; exact covered.held
  · rw [framed.source]; exact covered.distinct
  · rw [framed.cached,framed.source]; exact covered.cached
  · rcases pipeline_running (sound.running at_) taken with ⟨-,position⟩ | ⟨rfl,left,done⟩
    · rw [position,at_]
      refine ⟨earlier,?_,?_,?_,?_,?_,?_,framed.follows earlier midway.follows⟩
      · rw [framed.present,framed.source]; exact midway.sourced
      · rw [framed.present,framed.source]; exact midway.counts
      · rw [framed.totalCount,framed.source]; exact midway.announced
      · rw [framed.assetBatch,framed.source]; exact midway.batch
      · rw [framed.source]; exact midway.within
      · rw [framed.assets,framed.assetBatch]; exact midway.assets
    · unfold Run.endPipeline
      split
      · trivial
      · split
        · trivial
        · rename_i going
          have left : Midway (r.atConsumer .left) earlier := {midway with}
          refine midway_end left ?_
          rcases (ended_empty sound.core.windowed (.inr done)).2.2 with cancelled | all
          · exact absurd (sound.core.cancelled cancelled) going
          · exact all

theorem fetched_covers (covered : Covered r) {authorized : Bool} {cursor : Option Nat} (at_ : r.position = .fetching cursor)
    (kept : keepsPlaces r (.fetch authorized) = true) {fetchResult : Option Library × Option Library}
    (fetched : fetchResult = fetchResultForTransfer cursor.isNone authorized r.cachedFetchResult r.library) :
    ∃ library, fetchResult = (some library,some library) ∧ (∀ a ∈ r.present, a ∈ library.assets) ∧
      ∀ start, cursor = some start → library.assets = r.source ∨ SameSides r.source start library.assets := by
  have covers := covered.covers
  rw [at_] at covers
  unfold keepsPlaces at kept
  rw [at_] at kept
  unfold fetchResultForTransfer at fetched
  cases cursor with
  | none =>
    dsimp only at kept
    subst kept
    exact ⟨r.library,fetched,covered.held,fun start absurd => nomatch absurd⟩
  | some cursor =>
    dsimp only at kept
    cases cached : r.cachedFetchResult with
    | some library =>
      rw [cached] at fetched
      have same := covered.cached library cached
      exact ⟨library,fetched,fun a there => same ▸ covers.1.sourced a there,fun _ _ => .inl same⟩
    | none =>
      rw [cached] at fetched kept
      simp only [Option.isSome_none,Bool.false_or,Bool.and_eq_true,decide_eq_true_eq] at kept
      obtain ⟨rfl,sides⟩ := kept
      exact ⟨r.library,fetched,covered.held,fun start same => .inr (by cases same; exact sides)⟩

theorem covered_fetch (covered : Covered r) {authorized : Bool} {cursor : Option Nat} (at_ : r.position = .fetching cursor)
    (kept : keepsPlaces r (.fetch authorized) = true) (taken : stepRunTransfer r (.fetching cursor) (.fetch authorized) = some next) :
    Covered next := by
  obtain ⟨library,same,held,sides⟩ := fetched_covers covered at_ kept rfl
  have covers := covered.covers
  rw [at_] at covers
  simp only [stepRunTransfer,same,Option.getD_some,fetched_batch] at taken
  cases taken
  refine ⟨covered.held,library.distinct,fun other found => by cases found; rfl,?_⟩
  cases cursor with
  | none => exact ⟨⟨held,covers.1,rfl⟩,covers.2⟩
  | some start =>
    obtain ⟨even,length,within⟩ := covers
    rcases sides start rfl with unchanged | sides
    · refine ⟨⟨held,fun a there => ?_,?_⟩,length,?_,rfl⟩ <;> dsimp only <;> rw [unchanged]
      · exact even.counts a there
      · exact even.announced
      · exact within
    · refine ⟨⟨held,fun a there => ?_,even.announced.trans sides.1.symm⟩,length,?_,rfl⟩ <;> dsimp only
      · rw [even.counts a there,length]
        exact sides_count sides covered.distinct library.distinct (even.sourced a there) (held a there)
      · rw [sides.1]; exact within

theorem covered_on (covered : Covered r) {position : Position} (covers : Covers r position) : Covered {r with position} := by
  have fewer : Fewer r {r with position} := ⟨fun _ => id,rfl,rfl,rfl,rfl⟩
  exact ⟨covered.held,covered.distinct,covered.cached,fewer_covers fewer covers⟩

theorem transfer_outside : (r.transferBatch.library = r.library ∧ r.transferBatch.present = r.present) ∧
    r.transferBatch.source = r.source ∧ r.transferBatch.cachedFetchResult = r.cachedFetchResult := by
  unfold Run.transferBatch Run.nextBatch
  split
  · split <;> exact ⟨⟨rfl,rfl⟩,rfl,rfl⟩
  · exact ⟨⟨rfl,rfl⟩,rfl,rfl⟩

theorem covered_transfer (covered : Covered r) (even : Even r) (within : r.production.launched.length ≤ r.source.length)
    (batch : r.assetBatch = batchAt r.source r.production.launched.length) : Covered r.transferBatch := by
  obtain ⟨⟨library,present⟩,source,cached⟩ := transfer_outside (r := r)
  refine ⟨?_,?_,?_,transfer_covers even.sourced even.counts even.announced within batch⟩
  · rw [library,present]; exact covered.held
  · rw [source]; exact covered.distinct
  · rw [cached,source]; exact covered.cached

theorem covered_runTransfer (covered : Covered r) (kept : keepsPlaces r input = true)
    (taken : stepRunTransfer r r.position input = some next) : Covered next := by
  have covers := covered.covers
  have open_ : Fresh r → r.totalCount = r.source.length → Even r := fun fresh announced =>
    ⟨fresh.sourced,fun a _ => by rw [fresh.launched]; rfl,announced⟩
  unfold stepRunTransfer at taken
  split at taken
  · rename_i at_
    cases taken
    rw [at_] at covers
    exact covered_on covered covers
  · rename_i found at_
    cases taken
    rw [at_] at covers
    apply covered_on covered
    cases found
    · trivial
    · exact covers
  · rename_i cursor authorized at_
    exact covered_fetch covered at_ kept taken
  · rename_i at_
    rw [at_] at covers
    obtain ⟨fresh,unset⟩ := covers
    have total_ : r.assetBatch.totalCount = r.source.length := by rw [fresh.batch]; rfl
    split at taken
    · rename_i none_
      cases taken
      apply covered_on covered
      refine ⟨?_,fresh.launched,unset⟩
      apply List.eq_nil_iff_forall_not_mem.mpr
      intro a there
      have absurd := fresh.sourced a there
      rw [List.eq_nil_of_length_eq_zero (total_.symm.trans none_)] at absurd
      cases absurd
    · cases taken
      refine ⟨covered.held,covered.distinct,covered.cached,?_⟩
      dsimp only
      split
      · trivial
      · exact ⟨⟨fresh.sourced,fresh.launched,fresh.batch⟩,total_⟩
  · rename_i cursor at_
    cases taken
    rw [at_] at covers
    obtain ⟨even,length,within,batch⟩ := covers
    exact covered_transfer covered even (by omega) (by rw [batch,length])
  · rename_i at_
    cases taken
    rw [at_] at covers
    exact covered_on covered covers
  · rename_i at_
    cases taken
    rw [at_] at covers
    exact covered_on covered covers
  · rename_i at_
    cases taken
    rw [at_] at covers
    apply covered_on covered
    split
    · trivial
    · exact covers
  · cases taken; exact covered_on covered trivial
  · cases taken; exact covered_on covered trivial
  · cases taken; exact covered_on covered trivial
  · rename_i at_
    cases taken
    rw [at_] at covers
    obtain ⟨fresh,announced⟩ := covers
    refine covered_transfer covered (open_ fresh announced) ?_ ?_
    · rw [fresh.launched]; exact Nat.zero_le _
    · rw [fresh.batch,fresh.launched]; rfl
  · cases taken; exact covered_on covered trivial
  · cases taken; exact covered_on covered trivial
  · rename_i at_
    cases taken
    rw [at_] at covers
    exact covered_on covered covers
  · rename_i phase at_
    cases taken
    rw [at_] at covers
    have ended : Covers r (.ended phase) := by cases phase <;> exact covers
    have fewer : Fewer r {r with position:=.ended phase,cachedFetchResult:=none} := ⟨fun _ => id,rfl,rfl,rfl,rfl⟩
    exact ⟨covered.held,covered.distinct,fun _ none_ => (nomatch none_),fewer_covers fewer ended⟩
  · cases taken

theorem covered_step (sound : Sound r) (covered : Covered r) (kept : keepsPlaces r input = true)
    (taken : step settings r input = some next) : Covered next := by
  rcases step_cases taken with ⟨library,-,rfl⟩ | ⟨-,rfl⟩ | ⟨-,rfl⟩ | ⟨at_,taken⟩ | ⟨-,taken⟩
  · have fewer : Fewer r {r with library,present:=r.present.filter (· ∈ library.assets)} :=
      ⟨fun a there => (List.mem_filter.mp there).1,rfl,rfl,rfl,rfl⟩
    refine ⟨fun a there => ?_,covered.distinct,covered.cached,fewer_covers fewer covered.covers⟩
    simpa using (List.mem_filter.mp there).2
  · have fewer : Fewer r {r with cachedFetchResult:=none} := ⟨fun _ => id,rfl,rfl,rfl,rfl⟩
    exact ⟨covered.held,covered.distinct,fun _ none_ => (nomatch none_),fewer_covers fewer covered.covers⟩
  · have fewer : Fewer r {r with stopRequested:=true} := ⟨fun _ => id,rfl,rfl,rfl,rfl⟩
    exact ⟨covered.held,covered.distinct,covered.cached,fewer_covers fewer covered.covers⟩
  · exact covered_pipeline sound covered at_ taken
  · exact covered_runTransfer covered kept taken

structure Kept (r : Run) : Prop where
  sound : Sound r
  tallied : Tallied r
  filed : Filed r
  covered : Covered r

theorem keeps_leaks (kept : keepsPlaces r input = true) (taken : step settings r input = some next) : leaks input = false := by
  cases input with
  | exporting position outcome =>
    unfold keepsPlaces at kept
    split at kept
    · rename_i same; cases same
    · rename_i same; cases same
    · simpa using kept
  | _ => rfl

theorem kept_step (kept : Kept r) (admitted : keepsPlaces r input = true) (taken : step settings r input = some next) : Kept next :=
  ⟨sound_step kept.sound taken,tallied_step kept.sound kept.tallied taken,
    filed_step kept.sound kept.filed (keeps_leaks admitted taken) taken,covered_step kept.sound kept.covered admitted taken⟩

theorem kept_begun (library : Library) : Kept (begun library) :=
  ⟨sound_begun library,tallied_begun library,fun _ => rfl,covered_begun library⟩

theorem kept_reaches {library : Library}
    (path : Reaches (backupRun settings) (fun r input => keepsPlaces r input = true) (begun library) r) : Kept r :=
  reaches_preserves (fun _ _ _ kept admitted taken => kept_step kept admitted taken) (kept_begun library) path

theorem ended_whole (kept : Kept r) (going : r.stopRequested = false) (even : Even r) (clear : items r = [])
    (length : r.production.launched.length = r.source.length) :
    (∀ a ∈ r.present, r.exported.count a = 1) ∧ r.transferredCount + r.failedCount = r.totalCount := by
  have counts := kept.tallied.counts going
  rw [clear] at counts
  refine ⟨fun a there => ?_,?_⟩
  · have exports := kept.tallied.exports going a
    rw [clear] at exports
    have once : r.source.count a = 1 := List.count_eq_one_of_mem kept.covered.distinct (even.sourced a there)
    rw [total_nil,Nat.add_zero] at exports
    rw [exports,even.counts a there,length,List.take_length,once]
  · rw [even.announced,← length]
    exact counts

-- Over every run in which the library, where it is read again, keeps its photos on their
-- sides of the cursor.
theorem photos_accounted (settings : Settings) (library : Library) (r : Run)
    (path : Reaches (backupRun settings) (fun r input => keepsPlaces r input = true) (begun library) r) :
    (∀ lane, (r.uploading.uploadGroup.map UploadTask.lane).count lane ≤ limitOf r.uploading.uploadLanes lane) ∧
    (∀ d ∈ r.successfullyTransferredAssetIDs, d ∈ r.confirmed) ∧
    (r.stopRequested = false → r.position = .ended .transferring ∨ r.position = .ended .completed →
      (∀ a ∈ r.present, r.exported.count a = 1 ∧ r.lookedUp.count a ≤ 1 ∧ r.uploaded.count a ≤ 1) ∧
      r.transferredCount + r.failedCount = r.totalCount ∧ r.files = []) := by
  have kept := kept_reaches path
  have laned := kept.sound.core.laned
  refine ⟨fun lane => ?_,fun d there => ?_,fun going ended => ?_⟩
  · rw [← laned.byLane lane]
    exact laned.within lane
  · by_contra unconfirmed
    exact (kept.tallied.confirmed d unconfirmed).1 there
  · have covers := kept.covered.covers
    have clear : items r = [] := kept.sound.cleared (by rcases ended with at_ | at_ <;> rw [at_] <;> simp)
    have once : (∀ a ∈ r.present, r.exported.count a = 1) ∧ r.transferredCount + r.failedCount = r.totalCount := by
      rcases ended with at_ | at_
      · rw [at_] at covers
        exact ended_whole kept going covers.1 clear covers.2
      · rw [at_] at covers
        obtain ⟨none_,unlaunched,unset⟩ := covers
        have counts := kept.tallied.counts going
        rw [clear,unlaunched] at counts
        refine ⟨fun a there => ?_,counts.trans unset.symm⟩
        rw [none_] at there
        cases there
    refine ⟨fun a there => ⟨once.1 a there,?_,?_⟩,once.2,filed_clear kept.filed clear⟩
    · have lookups := kept.tallied.lookups a
      rw [once.1 a there] at lookups
      omega
    · have uploads := kept.tallied.uploads a
      rw [once.1 a there] at uploads
      omega

section Runs

theorem lane_open : 0 < 5 := by decide

def oneLane : Settings := ⟨5,5,false,lane_open,lane_open⟩

def photo (n : Nat) : String := String.ofList (List.replicate n 'a')

theorem photo_injective : Function.Injective photo := by
  intro m n same
  have length : (photo m).toList.length = (photo n).toList.length := by rw [same]
  simpa [photo] using length

def photos (numbers : List Nat) (distinct : numbers.Nodup) : Library := ⟨numbers.map photo,distinct.map photo_injective⟩

def opening : List Input := [.loaded true,.resumed,.fetch true,.resumed,.resumed,.resumed,.resumed,.resolved .lan,.produce]

def leaving : List Input := [.produce,.consume,.consume,.consume,.consume,.consume]

def uploadedOnce : List Input :=
  opening ++ [.exporting 0 (.exported true),.exporting 0 (.exported true),.handleMemoryWarning,.collect 0,.produce,.produce,
    .produce,.consume,.consume,.consume,.consume,.uploading 0 .checked,.uploading 0 .missing,.uploading 0 (.answered .stored),
    .join 0,.consume,.consume,.consume,.consume,.consume,.consume,.resumed,.resumed]

theorem photo_accounted : ∃ r : Run, (r.transferredCount = 1 ∧ r.totalCount = 1) ∧
    (∀ lane, (r.uploading.uploadGroup.map UploadTask.lane).count lane ≤ limitOf r.uploading.uploadLanes lane) ∧
    (∀ d ∈ r.successfullyTransferredAssetIDs, d ∈ r.confirmed) ∧
    (r.stopRequested = false → r.position = .ended .transferring ∨ r.position = .ended .completed →
      (∀ a ∈ r.present, r.exported.count a = 1 ∧ r.lookedUp.count a ≤ 1 ∧ r.uploaded.count a ≤ 1) ∧
      r.transferredCount + r.failedCount = r.totalCount ∧ r.files = []) := by
  obtain ⟨r,path,seen⟩ := checkedRun_exhibits (backupRun oneLane) (fun r input => keepsPlaces r input = true)
    (begun (photos [0] (by decide))) uploadedOnce
    (fun r => r.transferredCount == 1 && r.totalCount == 1 && r.position == .ended .transferring) (by decide +kernel)
  simp only [Bool.and_eq_true,beq_iff_eq] at seen
  exact ⟨r,seen.1,photos_accounted oneLane _ r path⟩

def failing : List Input :=
  [.exporting 0 (.threw false),.exporting 0 (.threw false),.collect 0,.produce,.produce,.consume,.consume,.consume]

-- After the first hundred of 101 photos a memory warning drops the fetch result and the
-- first photo is deleted: the last one now lies before the cursor.
def shifted : List Input :=
  opening ++ (List.replicate 100 failing).flatten ++ leaving ++
    [.handleMemoryWarning,.library (photos (List.range' 1 100) List.nodup_range'),.fetch true,.resumed,.resumed,.resumed]

set_option maxRecDepth 100000 in
theorem photo_skipped : ∃ r, Reachable (backupRun oneLane) (begun (photos (List.range 101) List.nodup_range)) r ∧
    r.stopRequested = false ∧ r.position = .ended .transferring ∧ r.transferredCount + r.failedCount = 100 ∧ r.totalCount = 101 := by
  obtain ⟨r,path,seen⟩ := checkedRun_exhibits (backupRun oneLane) (fun _ _ => True)
    (begun (photos (List.range 101) List.nodup_range)) shifted
    (fun r => !r.stopRequested && r.position == .ended .transferring && r.transferredCount + r.failedCount == 100 &&
      r.totalCount == 101) (by decide +kernel)
  simp only [Bool.and_eq_true,beq_iff_eq,Bool.not_eq_true'] at seen
  exact ⟨r,path,seen.1.1.1,seen.1.1.2,seen.1.2,seen.2⟩

end Runs

end ImageSearch.WholeBackups
