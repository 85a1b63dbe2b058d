import TopicRouting.Folder

/-! A file that was written is found again under its name with its text. Writing needs no folder to
be made and makes none, so the folders on the way to the file stay what they were. -/
namespace TopicRouting.Folder

theorem sameLineFeeds {text : Text} (clean : '\r' ∉ text) : withLineFeeds text = text := by
  induction text with
  | nil => rfl
  | cons c text ih =>
    obtain ⟨here, later⟩ := not_or.mp (mt List.mem_cons.mpr clean)
    rw [withLineFeeds, ih later]
    · rintro rest rfl
      exact absurd rfl here
    · rintro rfl
      exact absurd rfl here

def Place.path? : Place → Option Path
  | .file path _ | .free path => some path
  | _ => none

def Place.isLost : Place → Bool
  | .noFolder _ | .nowhere | .blocked | .tooLong => true
  | _ => false

variable {f : Folder}

theorem lostStays {place : Place} (lost : place.isLost = true) (level : Text) :
    (f.descend place level).isLost = true := by
  cases place with
  | file path text => contradiction
  | folder path => contradiction
  | free path => contradiction
  | noFolder isFile =>
    rw [descend]
    split
    · rfl
    · split <;> rfl
  | nowhere => rfl
  | blocked => rfl
  | tooLong => rfl

theorem lostAll {place : Place} (lost : place.isLost = true) (levels : List Text) :
    (levels.foldl f.descend place).path? = none := by
  induction levels generalizing place with
  | nil => cases place <;> first | rfl | contradiction
  | cons level levels ih => exact ih (lostStays lost level)

theorem pathLeft {place : Place} {path : Path} (here : place.path? = some path) (level : Text) :
    (f.descend place level).isLost = true := by
  cases place with
  | file path text =>
    rw [descend]
    split <;> rfl
  | free path =>
    rw [descend]
    split <;> rfl
  | _ => contradiction

theorem putPaths {path p : Path} {text : Text} {files : List (Path × Text)} :
    p ∈ (put path text files).map Prod.fst ↔ p = path ∨ p ∈ files.map Prod.fst := by
  induction files with
  | nil => simp [put]
  | cons file files ih =>
    obtain ⟨q, t⟩ := file
    by_cases same : q = path
    · subst same
      simp [put]
    · simp only [put, if_neg same, List.map_cons, List.mem_cons, ih]
      exact or_left_comm

theorem findPut (path : Path) (text : Text) (files : List (Path × Text)) :
    (put path text files).find? (·.1 == path) = some (path, text) := by
  induction files with
  | nil => simp [put]
  | cons file files ih =>
    obtain ⟨q, t⟩ := file
    by_cases same : q = path
    · simp [put, same]
    · simpa [put, same] using ih

theorem folderAmong {path : Path} : f.isFolder path = true ↔
    path.all (· == up) = true ∨
      ∃ p ∈ f.files.map Prod.fst, path.isPrefixOf p = true ∧ path ≠ p := by
  simp [isFolder]

def stored (f : Folder) (path : Path) (text : Text) : Folder := ⟨put path text f.files⟩

theorem standingFolder {path p q : Path} {text : Text} (stands : f.standing p = .folder q) :
    (f.stored path text).standing p = .folder q := by
  rw [standing] at stands
  split at stands
  · rename_i folder
    cases stands
    have kept : (f.stored path text).isFolder p = true := by
      rw [folderAmong] at folder ⊢
      refine folder.imp_right ?_
      rintro ⟨other, inside, below⟩
      exact ⟨other, putPaths.mpr (.inr inside), below⟩
    rw [standing, if_pos kept]
  · split at stands <;> contradiction

theorem standingPath {path p : Path} (text : Text) (stands : (f.standing p).path? = some path) :
    (f.stored path text).standing p = .file path text := by
  rw [standing] at stands
  split at stands
  · contradiction
  · rename_i noFolder
    have own : p = path := by
      split at stands <;> exact Option.some.inj stands
    subst own
    have still : ¬ (f.stored p text).isFolder p = true := by
      rw [folderAmong] at noFolder ⊢
      rintro (ups | ⟨other, inside, below, apart⟩)
      · exact noFolder (.inl ups)
      · rcases putPaths.mp inside with rfl | inside
        · exact apart rfl
        · exact noFolder (.inr ⟨other, inside, below, apart⟩)
    rw [standing, if_neg still, stored, findPut]

theorem standingEither {p : Path} (noPath : (f.standing p).path? = none) :
    ∃ q, f.standing p = .folder q := by
  rw [standing] at noPath ⊢
  split
  · exact ⟨p, rfl⟩
  · rename_i noFolder
    rw [if_neg noFolder] at noPath
    split at noPath <;> contradiction

theorem descendFolder (path : Path) (level : Text) :
    (∃ place : Place, place.path? = none ∧ ∀ f : Folder, f.descend (.folder path) level = place) ∨
      ∀ f : Folder, f.descend (.folder path) level = f.standing (path ++ [level]) := by
  simp only [descend]
  split
  · exact .inl ⟨_, rfl, fun _ => rfl⟩
  · split
    · exact .inl ⟨_, rfl, fun _ => rfl⟩
    · split
      · exact .inl ⟨_, rfl, fun _ => rfl⟩
      · exact .inr fun _ => rfl

theorem walkStored {levels : List Text} {start path : Path} (text : Text)
    (reaches : (levels.foldl f.descend (.folder start)).path? = some path) :
    levels.foldl (f.stored path text).descend (.folder start) = .file path text := by
  induction levels generalizing start with
  | nil => contradiction
  | cons level levels ih =>
    rw [List.foldl_cons] at reaches ⊢
    rcases descendFolder start level with ⟨place, noPath, same⟩ | stands
    · rw [same] at reaches ⊢
      cases place with
      | folder q => exact ih reaches
      | file q t => contradiction
      | free q => contradiction
      | _ =>
        rw [lostAll rfl] at reaches
        contradiction
    · rw [stands] at reaches ⊢
      cases here : (f.standing (start ++ [level])).path? with
      | some q =>
        cases levels with
        | nil => exact standingPath text reaches
        | cons next levels =>
          rw [List.foldl_cons, lostAll (pathLeft here next)] at reaches
          contradiction
      | none =>
        obtain ⟨q, folder⟩ := standingEither here
        rw [folder] at reaches
        rw [standingFolder folder]
        exact ih reaches

theorem writesAt {name text : Text} {after : Folder} : f.write name text = .ok after ↔
    name.contains '\x00' = false ∧
      ∃ path, (f.locate name).path? = some path ∧ after = f.stored path text := by
  rw [write]
  cases name.contains '\x00' with
  | true => simp
  | false => cases f.locate name <;> simp [Place.path?, stored, eq_comm]

theorem readsLines {name text : Text} {after : Folder} (written : f.write name text = .ok after) :
    after.read name = .ok (some (withLineFeeds text)) := by
  obtain ⟨_, path, reaches, rfl⟩ := writesAt.mp written
  have found : (f.stored path text).locate name = .file path text := by
    rw [locate] at reaches ⊢
    split at reaches
    · contradiction
    · rename_i named
      rw [if_neg named]
      exact walkStored text reaches
  rw [read, found]

theorem readsWritten {name text : Text} {after : Folder} (written : f.write name text = .ok after)
    (clean : '\r' ∉ text) : after.read name = .ok (some text) := by
  rw [readsLines written, sameLineFeeds clean]

theorem writesAny {name text : Text} {after : Folder} (written : f.write name text = .ok after)
    (other : Text) : ∃ later, f.write name other = .ok later := by
  obtain ⟨clean, path, reaches, _⟩ := writesAt.mp written
  exact ⟨_, writesAt.mpr ⟨clean, path, reaches, rfl⟩⟩

end TopicRouting.Folder
