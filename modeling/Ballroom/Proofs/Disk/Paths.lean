import Ballroom.Disk.Basic

/-!
# Paths that keep leading to a file

Once a file has been opened, with the directories that it needs, opening it again finds
the same file and changes nothing, whatever the files hold by then: `LeadsTo` says so of
a disk, and `Extends` is how a disk may grow without losing it.
-/

namespace Ballroom.Disk

/-! ### Growing disks -/

/-- Directories stay directories and files stay files. -/
structure Extends (a b : Disk) : Prop where
  directory : ∀ place, a.entryAt? place = some .directory → b.entryAt? place = some .directory
  file : ∀ place content, a.entryAt? place = some (.file content) →
    ∃ content', b.entryAt? place = some (.file content')

/-- An entry where nothing stood takes nothing away. -/
theorem extends_put_of_none {disk : Disk} {place : Place} (h : disk.entryAt? place = none)
    (entry : Entry) : Extends disk (disk.put place entry) := by
  have hne : ∀ {p e}, disk.entryAt? p = some e → p ≠ place := by
    rintro p e hp rfl
    rw [h] at hp
    cases hp
  constructor
  · intro p hp
    rw [entryAt_put, if_neg (hne hp), hp]
  · intro p content hp
    exact ⟨content, by rw [entryAt_put, if_neg (hne hp), hp]⟩

/-- A file may hold something else. -/
theorem extends_put_file {disk : Disk} {place : Place} {old : Content}
    (h : disk.entryAt? place = some (.file old)) (content : Content) :
    Extends disk (disk.put place (.file content)) := by
  constructor
  · intro p hp
    rw [entryAt_put, if_neg, hp]
    rintro rfl
    rw [h] at hp
    cases hp
  · intro p other hp
    rw [entryAt_put]
    split
    · exact ⟨content, rfl⟩
    · exact ⟨other, hp⟩

/-- A new directory changes what no file holds. -/
theorem content_put_directory {disk : Disk} {place : Place} (h : disk.entryAt? place = none) :
    (disk.put place .directory).content = disk.content := by
  funext p
  by_cases hp : p = place
  · simp [content, hp, h]
  · simp [content, hp]

/-! ### Following names -/

/-- What can be entered can still be entered when the disk has grown. -/
theorem Extends.enter {a b : Disk} (h : Extends a b) {place next : Place} {name : String}
    (henter : a.enter place name = .ok next) : b.enter place name = .ok next := by
  unfold Disk.enter at henter ⊢
  cases hentry : a.entryAt? place with
  | none => simp [hentry] at henter
  | some entry =>
    cases entry with
    | file content => simp [hentry] at henter
    | directory =>
      rw [h.directory place hentry]
      simpa only [hentry] using henter

/-- Names lead to the same place when the disk has grown. -/
theorem Extends.follow {a b : Disk} (h : Extends a b) {place last : Place} {names : List String}
    (hfollow : a.follow place names = .ok last) : b.follow place names = .ok last := by
  induction names generalizing place with
  | nil => exact hfollow
  | cons name rest ih =>
    simp only [Disk.follow] at hfollow ⊢
    cases henter : a.enter place name with
    | error fault => simp [henter] at hfollow
    | ok next =>
      rw [henter] at hfollow
      rw [h.enter henter]
      exact ih hfollow

/-- Names are followed one part after the other. -/
theorem follow_append (disk : Disk) (place : Place) (front back : List String) :
    disk.follow place (front ++ back) =
      (disk.follow place front).bind fun middle => disk.follow middle back := by
  induction front generalizing place with
  | nil => rfl
  | cons name rest ih =>
    simp only [List.cons_append, follow]
    cases disk.enter place name with
    | error fault => rfl
    | ok next => exact ih next

/-- Closing slashes stay where they are, in a directory. -/
theorem follow_replicate_empty {disk : Disk} {place last : Place} {k : Nat} :
    disk.follow place (List.replicate k "") = .ok last ↔
      last = place ∧ (k = 0 ∨ disk.entryAt? place = some .directory) := by
  induction k generalizing place with
  | zero => simp [follow, eq_comm]
  | succ k ih =>
    simp only [List.replicate_succ, follow, enter]
    cases hentry : disk.entryAt? place with
    | none => simp
    | some entry =>
      cases entry with
      | file content => simp
      | directory =>
        simp only [true_or, if_true]
        rw [ih, hentry]
        simp

/-- Names are the unclosed ones and some empty ones. -/
theorem exists_eq_unclosed_append (names : List String) :
    ∃ k, names = unclosed names ++ List.replicate k "" := by
  have hsplit := List.takeWhile_append_dropWhile (p := (· = "")) (l := names.reverse)
  -- What `unclosed` cuts off the end are the empty names there.
  have hempty : names.reverse.takeWhile (· = "") =
      List.replicate (names.reverse.takeWhile (· = "")).length "" := by
    rw [List.eq_replicate_iff]
    refine ⟨rfl, fun name hname => ?_⟩
    simpa using List.all_eq_true.1 List.all_takeWhile name hname
  refine ⟨(names.reverse.takeWhile (· = "")).length, ?_⟩
  rw [unclosed, ← List.reverse_replicate, ← hempty, ← List.reverse_append, hsplit,
    List.reverse_reverse]

/-! ### Directories that are there -/

/-- A path leads to a directory if its names lead to a place where one stands. -/
theorem leadsToDirectory_iff {disk : Disk} {path : String} :
    disk.leadsToDirectory path ↔ ∃ start names place, route path = .ok (start, names) ∧
      disk.follow start names = .ok place ∧ disk.entryAt? place = some .directory := by
  unfold leadsToDirectory stat locate
  cases route path with
  | error fault => simp [Except.bind]
  | ok way =>
    obtain ⟨start, names⟩ := way
    simp only [Except.bind, Except.ok.injEq, Prod.mk.injEq]
    cases hfollow : disk.follow start names with
    | error fault => grind
    | ok place =>
      cases hentry : disk.entryAt? place with
      | none => grind
      | some entry =>
        cases entry with
        | directory => grind
        | file content => grind

/-- A directory is still there when the disk has grown. -/
theorem Extends.leadsToDirectory {a b : Disk} (h : Extends a b) {path : String}
    (hleads : a.leadsToDirectory path) : b.leadsToDirectory path := by
  obtain ⟨start, names, place, hroute, hfollow, hentry⟩ := leadsToDirectory_iff.1 hleads
  exact leadsToDirectory_iff.2
    ⟨start, names, place, hroute, h.follow hfollow, h.directory place hentry⟩

/-- A directory that is there is not made again. -/
theorem makeDirectories_of_leadsToDirectory {disk : Disk} {path : String}
    (h : disk.leadsToDirectory path) : disk.makeDirectories path = (.ok (), disk) := by
  -- The directory is found without its closing slashes, and is in the way of a new one.
  have hexists : disk.makeDirectory path = .error .alreadyExists := by
    obtain ⟨start, names, place, hroute, hfollow, hentry⟩ := leadsToDirectory_iff.1 h
    obtain ⟨k, hk⟩ := exists_eq_unclosed_append names
    rw [hk, follow_append] at hfollow
    cases hopen : disk.follow start (unclosed names) with
    | error fault => simp [hopen, Except.bind] at hfollow
    | ok middle =>
      rw [hopen] at hfollow
      obtain ⟨rfl, _⟩ := follow_replicate_empty.1 hfollow
      simp [makeDirectory, locateNew, hroute, Except.bind, hopen, hentry]
  unfold makeDirectories
  simp only [hexists, h, if_true]
  split <;> rfl

/-- A directory that has been made is there. -/
theorem leadsToDirectory_of_makeDirectory {disk disk' : Disk} {path : String}
    (h : disk.makeDirectory path = .ok disk') :
    disk'.leadsToDirectory path ∧ disk'.content = disk.content := by
  unfold makeDirectory locateNew at h
  cases hroute : route path with
  | error fault => simp [hroute, Except.bind] at h
  | ok way =>
    obtain ⟨start, names⟩ := way
    rw [hroute] at h
    simp only [Except.bind] at h
    cases hopen : disk.follow start (unclosed names) with
    | error fault => simp [hopen] at h
    | ok place =>
      rw [hopen] at h
      dsimp only at h
      cases hentry : disk.entryAt? place with
      | some entry => simp [hentry] at h
      | none =>
        rw [hentry] at h
        obtain rfl := Except.ok.inj h
        -- The new directory stands at the end of the names without their closing slashes.
        have hextends := extends_put_of_none hentry .directory
        obtain ⟨k, hk⟩ := exists_eq_unclosed_append names
        have hthere : (disk.put place .directory).entryAt? place = some .directory := by
          rw [entryAt_put, if_pos rfl]
        refine ⟨leadsToDirectory_iff.2 ⟨start, names, place, hroute, ?_, hthere⟩,
          content_put_directory hentry⟩
        rw [hk, follow_append, hextends.follow hopen]
        exact follow_replicate_empty.2 ⟨rfl, .inr hthere⟩

/-- Making the way to a place changes no file. -/
theorem content_makeWay (disk : Disk) (place : Place) (names : List String) :
    (disk.makeWay place names).2.content = disk.content := by
  induction names generalizing disk place with
  | nil => rfl
  | cons name rest ih =>
    unfold makeWay
    -- The next name is there already, or it is made, or the way ends here.
    split
    · exact ih disk _
    · split
      · rfl
      · dsimp only
        split
        · rename_i hnone
          exact (ih _ _).trans (content_put_directory hnone)
        · exact ih disk _
        · rfl

/-- What is left to do once the way is there: the directory is made, or it is there. -/
private theorem leadsToDirectory_of_settled {disk disk' : Disk} {path : String}
    {result : Except DiskFault Unit × Disk}
    (hok : ∀ made, disk.makeDirectory path = .ok made → result = (.ok (), made))
    (herror : ∀ fault, disk.makeDirectory path = .error fault →
      result = (if disk.leadsToDirectory path then .ok () else .error fault, disk))
    (hresult : result = (.ok (), disk')) :
    disk'.leadsToDirectory path ∧ disk'.content = disk.content := by
  cases hmake : disk.makeDirectory path with
  | ok made =>
    rw [hok made hmake] at hresult
    obtain ⟨_, rfl⟩ := Prod.mk.inj hresult
    exact leadsToDirectory_of_makeDirectory hmake
  | error fault =>
    rw [herror fault hmake] at hresult
    obtain ⟨hleads, rfl⟩ := Prod.mk.inj hresult
    by_cases hthere : disk.leadsToDirectory path
    · exact ⟨hthere, rfl⟩
    · rw [if_neg hthere] at hleads
      cases hleads

/-- Directories that were made are there, and no file has changed. -/
theorem makeDirectories_ok {disk disk' : Disk} {path : String}
    (h : disk.makeDirectories path = (.ok (), disk')) :
    (path = "" ∨ disk'.leadsToDirectory path) ∧ disk'.content = disk.content := by
  unfold makeDirectories at h
  dsimp only at h
  split at h
  · rename_i hempty
    obtain ⟨_, rfl⟩ := Prod.mk.inj h
    exact ⟨.inl (by simpa using hempty), rfl⟩
  · split at h
    · -- The parents were missing: first the way is made, and then the directory.
      rename_i parent _ _
      split at h
      · simp at h
      · rename_i middle hway
        have hcontent := content_makeWay disk
          (if Path.isAbsolute path then [] else workingDirectory) (Path.names parent)
        rw [hway] at hcontent
        obtain ⟨hleads, hcontent'⟩ := leadsToDirectory_of_settled
          (fun made hmade => by rw [hmade]) (fun fault hfault => by rw [hfault]) h
        exact ⟨.inr hleads, hcontent'.trans hcontent⟩
    · obtain ⟨hleads, hcontent⟩ := leadsToDirectory_of_settled
        (fun made hmade => by rw [hmade]) (fun fault hfault => by rw [hfault]) h
      exact ⟨.inr hleads, hcontent⟩

/-! ### Files that are there -/

/-- A path leads to the file at a place, and the directories that hold it are there. -/
structure LeadsTo (disk : Disk) (path : String) (place : Place) : Prop where
  parent : ∀ parent, Path.parent? path = some parent →
    parent = "" ∨ disk.leadsToDirectory parent
  route : ∃ start names, Disk.route path = .ok (start, names) ∧ names.getLast? ≠ some "" ∧
    disk.follow start names = .ok place
  file : ∃ content, disk.entryAt? place = some (.file content)

/-- A path leads to its file when the disk has grown. -/
theorem LeadsTo.mono {a b : Disk} (h : Extends a b) {path : String} {place : Place}
    (hleads : a.LeadsTo path place) : b.LeadsTo path place where
  parent parent hparent := (hleads.parent parent hparent).imp id h.leadsToDirectory
  route := by
    obtain ⟨start, names, hroute, hclosed, hfollow⟩ := hleads.route
    exact ⟨start, names, hroute, hclosed, h.follow hfollow⟩
  file := by
    obtain ⟨content, hentry⟩ := hleads.file
    exact h.file place content hentry

/-- Writing into a file leaves it where it is. -/
theorem LeadsTo.writeAt {disk : Disk} {path : String} {place : Place}
    (h : disk.LeadsTo path place) (offset : Nat) (data : Content) :
    (disk.writeAt place offset data).LeadsTo path place := by
  obtain ⟨old, hold⟩ := h.file
  exact h.mono (extends_put_file hold _)

/-- The directories of a file that is there are not made again. -/
theorem LeadsTo.makeParents {disk : Disk} {path : String} {place : Place}
    (h : disk.LeadsTo path place) : disk.makeParents path = (.ok (), disk) := by
  unfold Disk.makeParents
  cases hparent : Path.parent? path with
  | none => rfl
  | some parent =>
    rcases h.parent parent hparent with rfl | hleads
    · rfl
    · exact makeDirectories_of_leadsToDirectory hleads

/-- A file that is there is found again. -/
theorem LeadsTo.openFile {disk : Disk} {path : String} {place : Place}
    (h : disk.LeadsTo path place) : disk.openFile path = (.ok place, disk) := by
  obtain ⟨start, names, hroute, hclosed, hfollow⟩ := h.route
  obtain ⟨content, hentry⟩ := h.file
  simp [Disk.openFile, hroute, hclosed, hfollow, hentry]

/-- A path leads to one place only. -/
theorem LeadsTo.unique {disk : Disk} {path : String} {place place' : Place}
    (h : disk.LeadsTo path place) (h' : disk.LeadsTo path place') : place = place' := by
  have hopen := h.openFile
  rw [h'.openFile] at hopen
  exact (Except.ok.inj (Prod.mk.inj hopen).1).symm

/-- The directories of a path are there once they have been made, and no file has changed. -/
theorem makeParents_ok {disk made : Disk} {path : String}
    (h : disk.makeParents path = (.ok (), made)) :
    (∀ parent, Path.parent? path = some parent → parent = "" ∨ made.leadsToDirectory parent) ∧
      made.content = disk.content := by
  unfold Disk.makeParents at h
  cases hparent : Path.parent? path with
  | none =>
    rw [hparent] at h
    obtain ⟨_, rfl⟩ := Prod.mk.inj h
    exact ⟨by simp, rfl⟩
  | some parent =>
    rw [hparent] at h
    obtain ⟨hleads, hcontent⟩ := makeDirectories_ok h
    refine ⟨?_, hcontent⟩
    rintro _ ⟨⟩
    exact hleads

/-- A new file has nothing in it, like a place without a file. -/
theorem content_put_empty {disk : Disk} {place : Place} (h : disk.entryAt? place = none) :
    (disk.put place (.file .empty)).content = disk.content := by
  funext p
  rw [content_put_file]
  split
  · rename_i hp
    rw [hp, Disk.content, h]
  · rfl

/-- A file that was opened is there, and no file has changed. -/
theorem leadsTo_of_openFile {disk made opened : Disk} {path : String} {place : Place}
    (hparents : disk.makeParents path = (.ok (), made))
    (hopen : made.openFile path = (.ok place, opened)) :
    opened.LeadsTo path place ∧ opened.content = disk.content := by
  -- The parents are there by now, so that only the file itself may be new.
  obtain ⟨hparent, hcontent⟩ := makeParents_ok hparents
  unfold Disk.openFile at hopen
  cases hroute : Disk.route path with
  | error fault => simp [hroute] at hopen
  | ok way =>
    obtain ⟨start, names⟩ := way
    rw [hroute] at hopen
    dsimp only at hopen
    split at hopen
    · simp at hopen
    · rename_i last hfollow
      split at hopen
      · simp at hopen
      -- A path that ends in a slash is no file's.
      · rename_i hclosed
        rw [if_neg hclosed] at hfollow
        cases hentry : made.entryAt? last with
        | none =>
          -- A new file: what was there before still is.
          rw [hentry] at hopen
          obtain ⟨hplace, rfl⟩ := Prod.mk.inj hopen
          obtain rfl := Except.ok.inj hplace
          have hextends := extends_put_of_none hentry (.file .empty)
          refine ⟨⟨?_, ⟨start, names, hroute, hclosed, hextends.follow hfollow⟩, ⟨.empty, ?_⟩⟩,
            (content_put_empty hentry).trans hcontent⟩
          · exact fun parent hp => (hparent parent hp).imp id hextends.leadsToDirectory
          · rw [entryAt_put, if_pos rfl]
        | some entry =>
          cases entry with
          | directory => simp [hentry] at hopen
          | file content =>
            rw [hentry] at hopen
            obtain ⟨hplace, rfl⟩ := Prod.mk.inj hopen
            obtain rfl := Except.ok.inj hplace
            exact ⟨⟨hparent, ⟨start, names, hroute, hclosed, hfollow⟩, ⟨content, hentry⟩⟩, hcontent⟩

/-- A path that leads to a file finds what the file holds. -/
theorem LeadsTo.stat {disk : Disk} {path : String} {place : Place} {content : Content}
    (h : disk.LeadsTo path place) (hentry : disk.entryAt? place = some (.file content)) :
    disk.stat path = .ok (place, .file content) := by
  obtain ⟨start, names, hroute, _, hfollow⟩ := h.route
  have hlocate : disk.locate path = .ok place := by
    rw [locate, hroute]
    exact hfollow
  simp only [Disk.stat, hlocate, hentry]

/-- What was written into a file is found there. -/
theorem stat_of_writeFile {disk made there : Disk} {path : String} {content : Content}
    (hparents : disk.makeParents path = (.ok (), made))
    (hwrite : made.writeFile path content = (.ok (), there)) :
    ∃ place, there.stat path = .ok (place, .file content) := by
  unfold writeFile at hwrite
  -- The file has been opened before it is written, and stays where it is.
  rcases hopen : made.openFile path with ⟨_ | place, opened⟩
  · simp [hopen] at hwrite
  · simp only [hopen, Prod.mk.injEq, true_and] at hwrite
    obtain ⟨hleads, _⟩ := leadsTo_of_openFile hparents hopen
    obtain ⟨old, hold⟩ := hleads.file
    refine ⟨place, ?_⟩
    rw [← hwrite]
    exact (hleads.mono (extends_put_file hold content)).stat (by rw [entryAt_put, if_pos rfl])

/-! ### Requests that let the disk grow -/

/-- A disk that stays the same has lost nothing. -/
theorem Extends.refl (disk : Disk) : Extends disk disk where
  directory _ hplace := hplace
  file _ content hplace := ⟨content, hplace⟩

/-- What two changes one after the other leave has lost nothing. -/
theorem Extends.trans {a b c : Disk} (h : Extends a b) (h' : Extends b c) : Extends a c where
  directory place hplace := h'.directory place (h.directory place hplace)
  file place content hplace := by
    obtain ⟨content', hplace'⟩ := h.file place content hplace
    exact h'.file place content' hplace'

/-- A directory is made only where nothing stood. -/
theorem extends_makeDirectory {disk disk' : Disk} {path : String}
    (h : disk.makeDirectory path = .ok disk') : Extends disk disk' := by
  unfold makeDirectory at h
  cases hplace : disk.locateNew path with
  | error fault => simp [hplace] at h
  | ok place =>
    cases hentry : disk.entryAt? place with
    | some entry => simp [hplace, hentry] at h
    | none =>
      rw [hplace] at h
      simp only [hentry] at h
      obtain rfl := Except.ok.inj h
      exact extends_put_of_none hentry .directory

/-- Making the way to a place takes nothing away, also if it cannot be finished. -/
theorem extends_makeWay (disk : Disk) (place : Place) (names : List String) :
    Extends disk (disk.makeWay place names).2 := by
  induction names generalizing disk place with
  | nil => exact .refl disk
  | cons name rest ih =>
    unfold makeWay
    split
    · exact ih disk _
    · split
      · exact .refl disk
      · dsimp only
        split
        · -- Nothing stood at the next name, so that a directory is made there.
          rename_i hnone
          exact (extends_put_of_none hnone .directory).trans (ih _ _)
        · exact ih disk _
        · exact .refl disk

/-- Making the directory itself, once the way is there, takes nothing away. -/
private theorem extends_of_settled {disk : Disk} {path : String}
    {result : Except DiskFault Unit × Disk}
    (hok : ∀ made, disk.makeDirectory path = .ok made → result = (.ok (), made))
    (herror : ∀ fault, disk.makeDirectory path = .error fault →
      result = (if disk.leadsToDirectory path then .ok () else .error fault, disk)) :
    Extends disk result.2 := by
  cases hmake : disk.makeDirectory path with
  | ok made =>
    rw [hok made hmake]
    exact extends_makeDirectory hmake
  | error fault =>
    rw [herror fault hmake]
    exact .refl disk

/-- Making a directory takes nothing away, whether or not it can be made. -/
theorem extends_makeDirectories (disk : Disk) (path : String) :
    Extends disk (disk.makeDirectories path).2 := by
  unfold makeDirectories
  dsimp only
  split
  · exact .refl disk
  · split
    · -- First the way to the parent is made, then the directory itself if that came about.
      rename_i parent _ _
      have hway := extends_makeWay disk
        (if Path.isAbsolute path then [] else workingDirectory) (Path.names parent)
      split
      · rename_i hmade
        rwa [hmade] at hway
      · rename_i hmade
        rw [hmade] at hway
        exact hway.trans (extends_of_settled (fun made hmake => by rw [hmake])
          (fun fault hfault => by rw [hfault]))
    · exact extends_of_settled (fun made hmake => by rw [hmake])
        (fun fault hfault => by rw [hfault])

/-- Making the directories of a path takes nothing away. -/
theorem extends_makeParents (disk : Disk) (path : String) :
    Extends disk (disk.makeParents path).2 := by
  unfold makeParents
  split
  · exact .refl disk
  · exact extends_makeDirectories disk _

/-- Opening a file takes nothing away: it is made only where nothing stood. -/
theorem extends_openFile (disk : Disk) (path : String) : Extends disk (disk.openFile path).2 := by
  unfold openFile
  split
  · exact .refl disk
  · dsimp only
    split
    · exact .refl disk
    · split
      · exact .refl disk
      · split
        · exact .refl disk
        · exact .refl disk
        · rename_i hnone
          exact extends_put_of_none hnone (.file .empty)

/-! ### Requests that change no file -/

/-- Making a directory changes no file, whether or not it can be made. -/
theorem content_makeDirectories (disk : Disk) (path : String) :
    (disk.makeDirectories path).2.content = disk.content := by
  -- What is left to do once the way is there changes no file either.
  have hsettle : ∀ {middle : Disk} {result : Except DiskFault Unit × Disk},
      (∀ made, middle.makeDirectory path = .ok made → result.2 = made) →
      (∀ fault, middle.makeDirectory path = .error fault → result.2 = middle) →
      result.2.content = middle.content := by
    intro middle result hok herror
    cases hmake : middle.makeDirectory path with
    | ok made => rw [hok made hmake, (leadsToDirectory_of_makeDirectory hmake).2]
    | error fault => rw [herror fault hmake]
  unfold makeDirectories
  dsimp only
  split
  · rfl
  · split
    · rename_i parent _ _
      have hway := content_makeWay disk
        (if Path.isAbsolute path then [] else workingDirectory) (Path.names parent)
      split
      · rename_i hmade
        rwa [hmade] at hway
      · rename_i middle hmade
        rw [hmade] at hway
        exact (hsettle (fun made hmake => by rw [hmake])
          (fun fault hfault => by rw [hfault])).trans hway
    · exact hsettle (fun made hmake => by rw [hmake]) (fun fault hfault => by rw [hfault])

/-- Making the directories of a path changes no file. -/
theorem content_makeParents (disk : Disk) (path : String) :
    (disk.makeParents path).2.content = disk.content := by
  unfold makeParents
  split
  · rfl
  · exact content_makeDirectories disk _

/-- A file that is made has nothing in it, and one that is there is left alone. -/
theorem content_openFile (disk : Disk) (path : String) :
    (disk.openFile path).2.content = disk.content := by
  unfold openFile
  split
  · rfl
  · dsimp only
    split
    · rfl
    · split
      · rfl
      · split
        · rfl
        · rfl
        · -- The file is new, and empty as what was not there.
          rename_i hnone
          exact content_put_empty hnone

end Ballroom.Disk
