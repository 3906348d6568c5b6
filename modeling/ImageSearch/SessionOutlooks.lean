import ImageSearch.MobileStore

namespace ImageSearch.SessionOutlooks
open Payload BackupState MobileStore

-- What the tables say of the lives of sessions and of the folders of devices.
structure Life where
  sessionId : String
  deviceUuid : String
  status : SessionStatus
  startedAt : DateTime
  deriving DecidableEq, Repr

structure Home where
  folderId : Nat
  deviceUuid : String
  transferState : FolderTransferState
  deriving DecidableEq, Repr

structure Outlook where
  lives : List Life
  homes : List Home

def Life.of (row : BackupSessionRow) : Life := ⟨row.sessionId,row.deviceUuid,row.status,row.startedAt⟩

def Home.of (row : MobileFolderRow) : Home := ⟨row.folderId,row.deviceUuid,row.transferState⟩

def outlook (store : Store) : Outlook := ⟨store.sessions.rows.map Life.of,store.mobileFolders.rows.map Home.of⟩

def Outlook.Runs (o : Outlook) (deviceUuid : String) : Prop :=
  ∃ life ∈ o.lives, life.deviceUuid = deviceUuid ∧ life.status = .transferring

def Outlook.Shows (o : Outlook) (deviceUuid : String) : Prop :=
  ∃ home ∈ o.homes, home.deviceUuid = deviceUuid ∧ home.transferState = .transferring

def Outlook.Latest (o : Outlook) (life : Life) : Prop :=
  ∀ other ∈ o.lives, other.deviceUuid = life.deviceUuid → other.startedAt ≤ life.startedAt

-- One session of a device runs at most, its latest has not ended then, and its folder shows it.
structure Settled (o : Outlook) : Prop where
  single : ∀ one ∈ o.lives, ∀ two ∈ o.lives, one.deviceUuid = two.deviceUuid → one.status = .transferring →
    two.status = .transferring → one.sessionId = two.sessionId
  recent : ∀ life ∈ o.lives, o.Runs life.deviceUuid → o.Latest life → ¬ life.status.Terminal
  shown : ∀ deviceUuid, o.Shows deviceUuid ↔ o.Runs deviceUuid

section Outlooks
variable {o next : Outlook} {deviceUuid sessionId : String} {status : SessionStatus} {state : FolderTransferState}

def Outlook.restate (o : Outlook) (sessionId deviceUuid : String) (status : SessionStatus) (state : FolderTransferState) :
    Outlook where
  lives := o.lives.map fun life =>
    if life.sessionId = sessionId ∧ life.deviceUuid = deviceUuid then {life with status} else life
  homes := o.homes.map fun home => if home.deviceUuid = deviceUuid then {home with transferState:=state} else home

def Life.restated (life : Life) (sessionId deviceUuid : String) (status : SessionStatus) : Life :=
  if life.sessionId = sessionId ∧ life.deviceUuid = deviceUuid then {life with status} else life

theorem mem_restated {new : Life} : new ∈ (o.restate sessionId deviceUuid status state).lives ↔
    ∃ old ∈ o.lives, old.restated sessionId deviceUuid status = new := List.mem_map

@[simp] theorem restated_device {life : Life} :
    (life.restated sessionId deviceUuid status).deviceUuid = life.deviceUuid := by
  unfold Life.restated
  split <;> rfl

@[simp] theorem restated_session {life : Life} :
    (life.restated sessionId deviceUuid status).sessionId = life.sessionId := by
  unfold Life.restated
  split <;> rfl

@[simp] theorem restated_started {life : Life} :
    (life.restated sessionId deviceUuid status).startedAt = life.startedAt := by
  unfold Life.restated
  split <;> rfl

theorem restated_mine {life : Life} (mine : life.sessionId = sessionId) (owner : life.deviceUuid = deviceUuid) :
    (life.restated sessionId deviceUuid status).status = status := by
  unfold Life.restated
  rw [if_pos ⟨mine,owner⟩]

theorem restated_other {life : Life} (other : ¬ (life.sessionId = sessionId ∧ life.deviceUuid = deviceUuid)) :
    (life.restated sessionId deviceUuid status).status = life.status := by
  unfold Life.restated
  rw [if_neg other]

theorem restated_latest {life : Life} (latest : (o.restate sessionId deviceUuid status state).Latest
    (life.restated sessionId deviceUuid status)) : o.Latest life := by
  intro other member same
  have later := latest _ (mem_restated.mpr ⟨other,member,rfl⟩) (by simpa using same)
  simpa using later

theorem restated_shows {other : String} : (o.restate sessionId deviceUuid status state).Shows other ↔
    if other = deviceUuid then state = .transferring ∧ ∃ home ∈ o.homes, home.deviceUuid = deviceUuid else o.Shows other := by
  unfold Outlook.Shows Outlook.restate
  simp only [List.mem_map]
  constructor
  · rintro ⟨_,⟨home,member,rfl⟩,same,shown⟩
    by_cases mine : home.deviceUuid = deviceUuid
    · simp only [mine,if_true] at same shown
      rw [if_pos same.symm]
      exact ⟨shown,home,member,mine⟩
    · simp only [mine,if_false] at same shown
      rw [if_neg (same ▸ mine)]
      exact ⟨home,member,same,shown⟩
  · intro told
    by_cases mine : other = deviceUuid
    · rw [if_pos mine] at told
      obtain ⟨shown,home,member,same⟩ := told
      exact ⟨_,⟨home,member,rfl⟩,by simp [same,mine],by simp [same,shown]⟩
    · rw [if_neg mine] at told
      obtain ⟨home,member,same,shown⟩ := told
      have apart : home.deviceUuid ≠ deviceUuid := same ▸ mine
      exact ⟨home,⟨home,member,by simp [apart]⟩,same,shown⟩

theorem restated_runs {other : String} (apart : other ≠ deviceUuid) :
    (o.restate sessionId deviceUuid status state).Runs other ↔ o.Runs other := by
  have foreign : ∀ life : Life, life.deviceUuid = other → ¬ (life.sessionId = sessionId ∧ life.deviceUuid = deviceUuid) :=
    fun life same mine => apart (same.symm.trans mine.2)
  constructor
  · rintro ⟨new,member,same,runs⟩
    obtain ⟨old,there,rfl⟩ := mem_restated.mp member
    rw [restated_device] at same
    rw [restated_other (foreign old same)] at runs
    exact ⟨old,there,same,runs⟩
  · rintro ⟨old,member,same,runs⟩
    refine ⟨_,mem_restated.mpr ⟨old,member,rfl⟩,by simpa using same,?_⟩
    rw [restated_other (foreign old same)]
    exact runs

theorem settled_restate (settled : Settled o)
    (alone : ∀ life ∈ o.lives, life.deviceUuid = deviceUuid → life.sessionId ≠ sessionId → life.status ≠ .transferring)
    (recent : status = .transferring → ∀ life ∈ o.lives, life.deviceUuid = deviceUuid → life.sessionId ≠ sessionId →
      o.Latest life → ¬ life.status.Terminal)
    (shown : (o.restate sessionId deviceUuid status state).Shows deviceUuid ↔
      (o.restate sessionId deviceUuid status state).Runs deviceUuid) :
    Settled (o.restate sessionId deviceUuid status state) := by
  -- In the device it is the session alone that runs, if it does.
  have mine : ∀ old ∈ o.lives, old.deviceUuid = deviceUuid →
      (old.restated sessionId deviceUuid status).status = .transferring →
      old.sessionId = sessionId ∧ status = .transferring := by
    intro old there owner runs
    by_cases named : old.sessionId = sessionId
    · rw [restated_mine named owner] at runs
      exact ⟨named,runs⟩
    · rw [restated_other fun both => named both.1] at runs
      exact absurd runs (alone old there owner named)
  have foreign : ∀ old : Life, old.deviceUuid ≠ deviceUuid →
      (old.restated sessionId deviceUuid status).status = old.status :=
    fun old apart => restated_other fun both => apart both.2
  refine ⟨?_,?_,?_⟩
  · intro one first two second same runs runs'
    obtain ⟨one,there,rfl⟩ := mem_restated.mp first
    obtain ⟨two,there',rfl⟩ := mem_restated.mp second
    simp only [restated_device,restated_session] at same ⊢
    by_cases owner : one.deviceUuid = deviceUuid
    · rw [(mine one there owner runs).1,(mine two there' (same ▸ owner) runs').1]
    · rw [foreign one owner] at runs
      rw [foreign two (same ▸ owner)] at runs'
      exact settled.single one there two there' same runs runs'
  · intro new member runs latest
    obtain ⟨old,there,rfl⟩ := mem_restated.mp member
    have before := restated_latest latest
    rw [restated_device] at runs
    by_cases owner : old.deviceUuid = deviceUuid
    · obtain ⟨_,member',owner',runs⟩ := runs
      obtain ⟨running,there',rfl⟩ := mem_restated.mp member'
      have started := (mine running there' (by simpa [owner] using owner') runs).2
      by_cases named : old.sessionId = sessionId
      · rw [restated_mine named owner,started]
        exact id
      · rw [restated_other fun both => named both.1]
        exact recent started old there owner named before
    · rw [foreign old owner]
      exact settled.recent old there ((restated_runs owner).mp runs) before
  · intro other
    by_cases owner : other = deviceUuid
    · rw [owner]
      exact shown
    · rw [restated_shows,if_neg owner,restated_runs owner]
      exact settled.shown other

theorem settled_ends (settled : Settled o) {life : Life} (here : life ∈ o.lives) (running : life.status = .transferring)
    (ended : status ≠ .transferring) (quiet : state ≠ .transferring) :
    Settled (o.restate life.sessionId life.deviceUuid status state) := by
  have alone : ∀ other ∈ o.lives, other.deviceUuid = life.deviceUuid → other.sessionId ≠ life.sessionId →
      other.status ≠ .transferring :=
    fun other there owner apart runs => apart (settled.single other there life here owner runs running)
  refine settled_restate settled alone (fun started => absurd started ended) ?_
  rw [restated_shows,if_pos rfl]
  constructor
  · intro shows
    exact absurd shows.1 quiet
  · rintro ⟨_,member,owner,runs⟩
    obtain ⟨old,there,rfl⟩ := mem_restated.mp member
    rw [restated_device] at owner
    by_cases named : old.sessionId = life.sessionId
    · rw [restated_mine named owner] at runs
      exact absurd runs ended
    · rw [restated_other fun both => named both.1] at runs
      exact absurd runs (alone old there owner named)

-- A session starts beside none that runs, and is the latest unless that one goes on too.
theorem settled_starts (settled : Settled o) {life : Life} (here : life ∈ o.lives)
    (alone : ∀ other ∈ o.lives, other.deviceUuid = life.deviceUuid → other.sessionId ≠ life.sessionId →
      other.status ≠ .transferring ∧ (o.Latest other → ¬ other.status.Terminal))
    {home : Home} (bound : home ∈ o.homes) (owner : home.deviceUuid = life.deviceUuid) :
    Settled (o.restate life.sessionId life.deviceUuid .transferring .transferring) := by
  refine settled_restate settled ?_ ?_ ?_
  · exact fun other there owner apart => (alone other there owner apart).1
  · exact fun _ other there owner apart => (alone other there owner apart).2
  · rw [restated_shows,if_pos rfl]
    refine ⟨fun _ => ?_,fun _ => ⟨rfl,home,bound,owner⟩⟩
    exact ⟨_,mem_restated.mpr ⟨life,here,rfl⟩,restated_device,restated_mine rfl rfl⟩

theorem settled_homes (settled : Settled o) (lives : next.lives = o.lives)
    (shows : ∀ deviceUuid, next.Shows deviceUuid ↔ o.Shows deviceUuid) : Settled next := by
  have runs : ∀ deviceUuid, next.Runs deviceUuid ↔ o.Runs deviceUuid := by
    intro deviceUuid
    unfold Outlook.Runs
    rw [lives]
  refine ⟨?_,?_,?_⟩
  · rw [lives]
    exact settled.single
  · intro life member running latest
    unfold Outlook.Latest at latest
    rw [lives] at member latest
    exact settled.recent life member ((runs _).mp running) latest
  · intro deviceUuid
    rw [shows,runs]
    exact settled.shown deviceUuid

theorem settled_pairs (settled : Settled o) (still : ¬ o.Runs deviceUuid)
    (lives : next.lives = o.lives) (homes : next.homes = o.homes.map fun home =>
      if home.deviceUuid = deviceUuid then {home with transferState:=.paired} else home) : Settled next := by
  refine settled_homes settled lives fun other => ?_
  have restated : next.Shows other ↔ (o.restate "" deviceUuid .paired .paired).Shows other := by
    unfold Outlook.Shows Outlook.restate
    rw [homes]
  rw [restated,restated_shows]
  split
  · rename_i mine
    refine ⟨fun told => absurd told.1 (by decide),fun shows => ?_⟩
    exact absurd ((settled.shown other).mp shows) (mine ▸ still)
  · exact Iff.rfl

theorem settled_settles (settled : Settled o) {home : Home} (quiet : home.transferState ≠ .transferring)
    (lives : next.lives = o.lives) (homes : next.homes = o.homes ++ [home]) : Settled next := by
  refine settled_homes settled lives fun other => ?_
  unfold Outlook.Shows
  rw [homes]
  constructor
  · rintro ⟨one,member,same,shown⟩
    rcases List.mem_append.mp member with old | new
    · exact ⟨one,old,same,shown⟩
    · cases List.mem_singleton.mp new
      exact absurd shown quiet
  · rintro ⟨one,member,same,shown⟩
    exact ⟨one,List.mem_append_left _ member,same,shown⟩

theorem settled_joins (settled : Settled o) {life : Life} (paired : life.status = .paired)
    (lives : next.lives = o.lives ++ [life]) (homes : next.homes = o.homes) : Settled next := by
  have old : ∀ one ∈ next.lives, one ∈ o.lives ∨ one = life := by
    intro one member
    rw [lives] at member
    exact (List.mem_append.mp member).imp id List.mem_singleton.mp
  have was : ∀ one ∈ next.lives, one.status = .transferring → one ∈ o.lives := by
    intro one member runs
    rcases old one member with there | rfl
    · exact there
    · cases paired.symm.trans runs
  have runs : ∀ deviceUuid, next.Runs deviceUuid ↔ o.Runs deviceUuid := by
    intro deviceUuid
    constructor
    · rintro ⟨one,member,same,runs⟩
      exact ⟨one,was one member runs,same,runs⟩
    · rintro ⟨one,member,same,runs⟩
      exact ⟨one,lives ▸ List.mem_append_left _ member,same,runs⟩
  refine ⟨?_,?_,?_⟩
  · intro one member two member' same first second
    exact settled.single one (was one member first) two (was two member' second) same first second
  · intro one member running latest
    rcases old one member with there | rfl
    · refine settled.recent one there ((runs _).mp running) fun other here same => ?_
      exact latest other (lives ▸ List.mem_append_left _ here) same
    · rw [paired]
      exact id
  · intro deviceUuid
    rw [runs]
    unfold Outlook.Shows
    rw [homes]
    exact settled.shown deviceUuid

theorem settled_moves (settled : Settled o) {previous replacement : String} {folderId : Nat} (still : ¬ o.Runs previous)
    (unknown : ∀ life ∈ o.lives, life.deviceUuid ≠ replacement)
    (owned : ∀ home ∈ o.homes, home.folderId = folderId → home.deviceUuid = previous)
    (lives : next.lives = o.lives.map fun life =>
      if life.deviceUuid = previous then {life with deviceUuid:=replacement} else life)
    (homes : next.homes = o.homes.map fun home =>
      if home.folderId = folderId then ⟨home.folderId,replacement,.paired⟩ else home) : Settled next := by
  have here : ∀ life ∈ o.lives, life.deviceUuid ≠ previous → life ∈ next.lives := by
    intro life member apart
    rw [lives]
    exact List.mem_map.mpr ⟨life,member,if_neg apart⟩
  -- Who is neither of the two was there before.
  have there : ∀ life ∈ next.lives, life.deviceUuid ≠ replacement → life ∈ o.lives ∧ life.deviceUuid ≠ previous := by
    intro life member apart
    rw [lives] at member
    obtain ⟨old,before,rfl⟩ := List.mem_map.mp member
    by_cases mine : old.deviceUuid = previous
    · rw [if_pos mine] at apart
      exact absurd rfl apart
    · rw [if_neg mine]
      exact ⟨before,mine⟩
  have was : ∀ life ∈ next.lives, life.status = .transferring → life.deviceUuid ≠ replacement := by
    intro life member runs
    rw [lives] at member
    obtain ⟨old,before,rfl⟩ := List.mem_map.mp member
    by_cases mine : old.deviceUuid = previous
    · rw [if_pos mine] at runs
      exact absurd ⟨old,before,mine,runs⟩ still
    · rw [if_neg mine]
      exact unknown old before
  have runs : ∀ deviceUuid, next.Runs deviceUuid ↔ o.Runs deviceUuid := by
    intro deviceUuid
    constructor
    · rintro ⟨life,member,same,running⟩
      exact ⟨life,(there life member (was life member running)).1,same,running⟩
    · rintro ⟨life,member,same,running⟩
      refine ⟨life,here life member fun mine => still ⟨life,member,mine,running⟩,same,running⟩
  refine ⟨?_,?_,?_⟩
  · intro one member two member' same first second
    exact settled.single one (there one member (was one member first)).1 two (there two member' (was two member' second)).1
      same first second
  · intro life member running latest
    have known : life.deviceUuid ≠ replacement := by
      obtain ⟨other,member',same,runs⟩ := running
      exact same ▸ was other member' runs
    obtain ⟨before,apart⟩ := there life member known
    refine settled.recent life before ((runs _).mp running) fun other member' same => ?_
    exact latest other (here other member' (same ▸ apart)) same
  · intro deviceUuid
    rw [runs,← settled.shown]
    unfold Outlook.Shows
    rw [homes]
    constructor
    · rintro ⟨home,member,same,shown⟩
      obtain ⟨old,before,rfl⟩ := List.mem_map.mp member
      by_cases mine : old.folderId = folderId
      · rw [if_pos mine] at shown
        cases shown
      · rw [if_neg mine] at same shown
        exact ⟨old,before,same,shown⟩
    · rintro ⟨home,member,same,shown⟩
      have kept : home.folderId ≠ folderId := by
        intro mine
        exact still ((settled.shown previous).mp ⟨home,member,owned home member mine,shown⟩)
      exact ⟨home,List.mem_map.mpr ⟨home,member,if_neg kept⟩,same,shown⟩

theorem settled_leaves (settled : Settled o) {gone : String → Bool}
    (lives : next.lives = o.lives.filter fun life => !gone life.deviceUuid)
    (homes : next.homes = o.homes.filter fun home => !gone home.deviceUuid) : Settled next := by
  have kept : ∀ life, life ∈ next.lives ↔ life ∈ o.lives ∧ gone life.deviceUuid = false := by
    intro life
    rw [lives,List.mem_filter,Bool.not_eq_true']
  refine ⟨?_,?_,?_⟩
  · intro one member two member' same first second
    exact settled.single one ((kept one).mp member).1 two ((kept two).mp member').1 same first second
  · rintro life member ⟨other,member',same,runs⟩ latest
    obtain ⟨before,stays⟩ := (kept life).mp member
    refine settled.recent life before ⟨other,((kept other).mp member').1,same,runs⟩ fun third there same => ?_
    exact latest third ((kept third).mpr ⟨there,same ▸ stays⟩) same
  · intro deviceUuid
    constructor
    · rintro ⟨home,member,same,shown⟩
      rw [homes,List.mem_filter,Bool.not_eq_true'] at member
      obtain ⟨life,there,mine,runs⟩ := (settled.shown deviceUuid).mp ⟨home,member.1,same,shown⟩
      exact ⟨life,(kept life).mpr ⟨there,by rw [mine,← same]; exact member.2⟩,mine,runs⟩
    · rintro ⟨life,member,same,runs⟩
      obtain ⟨there,stays⟩ := (kept life).mp member
      obtain ⟨home,here,mine,shown⟩ := (settled.shown deviceUuid).mpr ⟨life,there,same,runs⟩
      refine ⟨home,?_,mine,shown⟩
      rw [homes,List.mem_filter,Bool.not_eq_true',mine,← same]
      exact ⟨here,stays⟩

end Outlooks

end ImageSearch.SessionOutlooks
