import BoundSql.DatabaseAddress
import BoundSql.Proofs.Integer
import BoundSql.Proofs.Percent

/-!
# Addresses written and read

An address is read part by part, each of which ends where the next one can begin.  Nothing says so
in advance: a user may contain a colon or an at sign, and a host in brackets contains colons.  What
is written can be read because everything that could be taken for the end of a part is escaped in
it, or else the part stands in brackets.

Two things are lost.  The password is written as three stars, so it is these that are read; and it
is not written at all where there is no user.  What is assumed of the other parts is what their
writing takes for granted (`DatabaseAddress.IsWritable`): the driver and the host are written as
they are, and a number has to be one that is read again.  Queries are left aside.

The proof follows the reading.  For each part there is one lemma for each form in which it is
written, all of which say where the part ends, given what can stand behind it.

* `DatabaseAddress.readUser_of_notMem` and its like, `DatabaseAddress.readHost_bracketed` and its
  like : reading the parts.
* `DatabaseAddress.ofUrl_toUrl` : what is written is read back, but for the password.
-/

namespace BoundSql.DatabaseAddress

open Text

/-! ### The user -/

theorem splitLast?_of_notMem {c : Char} {s : List Char} (absent : c ∉ s) :
    splitLast? c s = none := by
  induction s with
  | nil => rfl
  | cons d s ih =>
      have other : d ≠ c := fun same => absent (same ▸ List.mem_cons_self)
      rw [splitLast?, ih fun mem => absent (List.mem_cons_of_mem d mem)]
      exact if_neg (by simpa using other)

theorem splitLast?_append {c : Char} {rest : List Char} (absent : c ∉ rest) (before : List Char) :
    splitLast? c (before ++ c :: rest) = some (before, rest) := by
  induction before with
  | nil =>
      rw [List.nil_append, splitLast?, splitLast?_of_notMem absent]
      exact if_pos (by simp)
  | cons d before ih => rw [List.cons_append, splitLast?, ih]

theorem ne_of_notMem {c : Char} {s : List Char} (absent : c ∉ s) : ∀ d ∈ s, (d != c) = true := by
  intro d mem
  rw [bne_iff_ne]
  rintro rfl
  exact absent mem

theorem dropWhile_ne_of_notMem {c : Char} {s : List Char} (absent : c ∉ s) :
    s.dropWhile (· != c) = [] :=
  List.dropWhile_eq_nil_iff.mpr (ne_of_notMem absent)

/-- Without an at sign there is no user. -/
theorem readUser_of_notMem {text : List Char} (absent : '@' ∉ text) :
    readUser text = (none, none, text) := by
  have run : '@' ∉ text.takeWhile fun c => !(c == ':' || c == '/') := fun mem =>
    absent ((List.takeWhile_sublist _).subset mem)
  unfold readUser
  simp only [splitLast?_of_notMem run]
  split
  case h_1 rest behind =>
    have absent : '@' ∉ rest := fun mem => absent <|
      (List.dropWhile_sublist _).subset (behind ▸ List.mem_cons_of_mem ':' mem)
    rw [dropWhile_ne_of_notMem absent]
  case h_2 => rfl

variable {user rest : List Char}

/-- A user without a password ends at the only at sign. -/
theorem readUser_append (free : ∀ c ∈ user, (!(c == ':' || c == '/')) = true)
    (absent : '@' ∉ rest) :
    readUser (user ++ '@' :: rest) = (some user, none, rest) := by
  have run : (user ++ '@' :: rest).takeWhile (fun c => !(c == ':' || c == '/')) =
      user ++ '@' :: rest.takeWhile fun c => !(c == ':' || c == '/') := by
    rw [List.takeWhile_append_of_pos free, List.takeWhile_cons_of_pos (by decide)]
  have behind : (user ++ '@' :: rest).dropWhile (fun c => !(c == ':' || c == '/')) =
      rest.dropWhile fun c => !(c == ':' || c == '/') := by
    rw [List.dropWhile_append_of_pos free, List.dropWhile_cons_of_pos (by decide)]
  have last := splitLast?_append (c := '@')
    (fun mem => absent ((List.takeWhile_sublist fun c => !(c == ':' || c == '/')).subset mem)) user
  unfold readUser
  simp only [run, behind, last, List.takeWhile_append_dropWhile]
  split
  case h_1 more colon =>
    have absent : '@' ∉ more := fun mem => absent <|
      (List.dropWhile_sublist _).subset (colon ▸ List.mem_cons_of_mem ':' mem)
    rw [dropWhile_ne_of_notMem absent]
  case h_2 => rfl

/-- A password stands between a colon and the at sign. -/
theorem readUser_password (free : ∀ c ∈ user, (!(c == ':' || c == '/')) = true)
    {password : List Char} (absent : '@' ∉ password) (rest : List Char) :
    readUser (user ++ ':' :: (password ++ '@' :: rest)) = (some user, some password, rest) := by
  have inside := ne_of_notMem absent
  have run : (user ++ ':' :: (password ++ '@' :: rest)).takeWhile
      (fun c => !(c == ':' || c == '/')) = user := by
    rw [List.takeWhile_append_of_pos free, List.takeWhile_cons_of_neg (by decide), List.append_nil]
  have behind : (user ++ ':' :: (password ++ '@' :: rest)).dropWhile
      (fun c => !(c == ':' || c == '/')) = ':' :: (password ++ '@' :: rest) := by
    rw [List.dropWhile_append_of_pos free, List.dropWhile_cons_of_neg (by decide)]
  unfold readUser
  simp only [run, behind]
  rw [List.dropWhile_append_of_pos inside, List.dropWhile_cons_of_neg (by decide),
    List.takeWhile_append_of_pos inside, List.takeWhile_cons_of_neg (by decide), List.append_nil]

/-! ### The host -/

/-- A run ends before it begins where the first character is none of its own. -/
theorem takeWhile_of_head? {p : Char → Bool} (stops : ∀ c ∈ rest.head?, p c = false) :
    rest.takeWhile p = [] ∧ rest.dropWhile p = rest := by
  cases rest with
  | nil => exact ⟨rfl, rfl⟩
  | cons c rest =>
      have stop : ¬ p c = true := Bool.not_eq_true _ ▸ stops c rfl
      exact ⟨List.takeWhile_cons_of_neg stop, List.dropWhile_cons_of_neg stop⟩

/-- What stands behind a host: the mark of the next part, or nothing. -/
def Closes (rest : List Char) : Prop := ∀ c ∈ rest.head?, c = '/' ∨ c = ':'

theorem Closes.stops (closes : Closes rest) :
    ∀ c ∈ rest.head?, (!(c == '/' || c == ':' || c == '?')) = false := by
  intro c head
  rcases closes c head with rfl | rfl <;> rfl

theorem readHost_of_closes (closes : Closes rest) : readHost rest = (none, rest) := by
  have none : rest.takeWhile (fun c => !(c == '/' || c == ':' || c == '?')) = [] :=
    (takeWhile_of_head? closes.stops).1
  unfold readHost
  simp only [none]
  split
  case h_1 more =>
    rcases closes '[' rfl with same | same <;> cases same
  case h_2 => rfl

/-- A host without colons. -/
theorem readHost_append {host : List Char} (present : host ≠ [])
    (free : ∀ c ∈ host, (!(c == '/' || c == ':' || c == '?')) = true) (bracket : '[' ∉ host)
    (closes : Closes rest) : readHost (host ++ rest) = (some host, rest) := by
  obtain ⟨none, behind⟩ := takeWhile_of_head? closes.stops
  obtain ⟨c, host, rfl⟩ := List.exists_cons_of_ne_nil present
  unfold readHost
  simp only [List.takeWhile_append_of_pos free, List.dropWhile_append_of_pos free, none, behind,
    List.append_nil]
  split
  case h_1 more same =>
    exact absurd ((List.cons.inj same).1 ▸ List.mem_cons_self) bracket
  case h_2 => rfl

/-- A host with colons stands in brackets, the second of which is the last one before a slash. -/
theorem readHost_bracketed {host : List Char} (present : host ≠ [])
    (free : ∀ c ∈ host, (!(c == '/' || c == '?')) = true)
    (single : ']' ∉ rest.takeWhile fun c => !(c == '/' || c == '?')) :
    readHost ('[' :: (host ++ ']' :: rest)) = (some host, rest) := by
  obtain ⟨c, host, rfl⟩ := List.exists_cons_of_ne_nil present
  have run : (c :: host ++ ']' :: rest).takeWhile (fun c => !(c == '/' || c == '?')) =
      c :: host ++ ']' :: rest.takeWhile fun c => !(c == '/' || c == '?') := by
    rw [List.takeWhile_append_of_pos free, List.takeWhile_cons_of_pos (by decide)]
  have behind : (c :: host ++ ']' :: rest).dropWhile (fun c => !(c == '/' || c == '?')) =
      rest.dropWhile fun c => !(c == '/' || c == '?') := by
    rw [List.dropWhile_append_of_pos free, List.dropWhile_cons_of_pos (by decide)]
  unfold readHost
  simp only [run, behind, splitLast?_append single, List.takeWhile_append_dropWhile]

/-! ### The other parts -/

theorem readPart_of_other {mark : Char} {ends : Char → Bool}
    (other : ∀ c ∈ rest.head?, c ≠ mark) : readPart mark ends rest = (none, rest) := by
  cases rest with
  | nil => rfl
  | cons c rest => exact if_neg (by simpa using other c rfl)

/-- A part goes from its mark to the next one. -/
theorem readPart_append {mark : Char} {ends : Char → Bool} {part : List Char}
    (inside : ∀ c ∈ part, (!ends c) = true) (stops : ∀ c ∈ rest.head?, ends c = true) :
    readPart mark ends (mark :: (part ++ rest)) = (some part, rest) := by
  obtain ⟨none, behind⟩ := takeWhile_of_head? (p := (!ends ·)) fun c head => by
    simp [stops c head]
  rw [readPart, if_pos (by simp), List.takeWhile_append_of_pos inside,
    List.dropWhile_append_of_pos inside, none, behind, List.append_nil]

/-! ### Whole addresses -/

/-- The driver and the host are such that they can be written as they are, the number is one that is
read again, and there is no query. -/
structure IsWritable (a : DatabaseAddress) : Prop where
  /-- A driver has a name, of word characters and plus signs. -/
  driver : a.driver ≠ "" ∧ ∀ c ∈ a.driver.toList, (isWordChar c || c == '+') = true
  /-- A host has a name, in which no mark of another part occurs, and no bracket. -/
  host : ∀ host, a.host? = some host →
    host ≠ "" ∧ ∀ c ∈ host.toList, c ∉ ['/', '?', '@', '[', ']']
  /-- A number has no more digits than are read. -/
  portNumber : ∀ n, a.portNumber? = some n → (toString n.natAbs).length ≤ digitLimit
  query : a.query = []

/-- The user as it is written, with the stars for a password. -/
def userText (a : DatabaseAddress) : List Char :=
  match a.user?, a.password? with
  | some user, some _ => percentEncode " +".toList user.toList ++ ':' :: ("***".toList ++ ['@'])
  | some user, none => percentEncode " +".toList user.toList ++ ['@']
  | none, _ => []

/-- The host as it is written. -/
def hostText (a : DatabaseAddress) : List Char :=
  match a.host? with
  | some host => if host.contains ':' then '[' :: (host.toList ++ [']']) else host.toList
  | none => []

/-- The number as it is written. -/
def numberText (a : DatabaseAddress) : List Char :=
  match a.portNumber? with
  | some n => ':' :: (toString n).toList
  | none => []

/-- The database as it is written. -/
def databaseText (a : DatabaseAddress) : List Char :=
  match a.database? with
  | some name => '/' :: percentEncode " +/".toList name.toList
  | none => []

theorem toList_toUrl {a : DatabaseAddress} (query : a.query = []) :
    a.toUrl.toList = a.driver.toList ++
      (':' :: '/' :: '/' :: (a.userText ++ (a.hostText ++ (a.numberText ++ a.databaseText)))) := by
  obtain ⟨driver, user?, password?, host?, portNumber?, database?, query'⟩ := a
  obtain rfl : query' = [] := query
  unfold toUrl userText hostText numberText databaseText
  cases user? <;> cases password? <;> cases host? <;> cases portNumber? <;> cases database? <;>
    simp [encoded, apply_ite String.toList]

/-- A character that has to be escaped does not occur in an escaped text. -/
theorem notMem_percentEncode {safe : List Char} {c : Char} (s : List Char) (sign : c ≠ '%')
    (reserved : (isUnreserved c || safe.contains c) = false) : c ∉ percentEncode safe s := by
  intro mem
  rcases mem_percentEncode mem with same | shown
  · exact sign same
  · exact absurd (reserved.symm.trans shown) Bool.false_ne_true

/-- A number is written with digits and a minus. -/
theorem mem_toString {n : Int} {c : Char} (mem : c ∈ (toString n).toList) :
    c = '-' ∨ c.isDigit = true := by
  cases n with
  | ofNat m => exact .inr (Namer.isDigit_of_mem_toString mem).1
  | negSucc m =>
      have minus : (toString (Int.negSucc m)).toList = '-' :: (toString (m + 1)).toList :=
        String.toList_append
      rw [minus, List.mem_cons] at mem
      exact mem.imp id fun mem => (Namer.isDigit_of_mem_toString mem).1

variable {a : DatabaseAddress}

theorem readPart_databaseText :
    readPart '/' (· == '?') a.databaseText =
      (a.database?.map fun name => percentEncode " +/".toList name.toList, []) := by
  unfold databaseText
  cases a.database? with
  | none => rfl
  | some name =>
      have absent : '?' ∉ percentEncode " +/".toList name.toList :=
        notMem_percentEncode _ (by decide) (by decide)
      have read : readPart '/' (· == '?') ('/' :: (percentEncode " +/".toList name.toList ++ [])) =
          (some (percentEncode " +/".toList name.toList), []) :=
        readPart_append (ne_of_notMem absent) nofun
      rwa [List.append_nil] at read

theorem head?_databaseText : ∀ c ∈ a.databaseText.head?, c = '/' := by
  unfold databaseText
  cases a.database? with
  | none => nofun
  | some name => exact fun c head => (Option.some.inj head).symm

theorem readPart_numberText :
    readPart ':' (fun c => c == '/' || c == '?') (a.numberText ++ a.databaseText) =
      (a.portNumber?.map fun n => (toString n).toList, a.databaseText) := by
  unfold numberText
  cases a.portNumber? with
  | none =>
      refine readPart_of_other fun c head => ?_
      rw [head?_databaseText c head]
      decide
  | some n =>
      refine readPart_append (fun c mem => ?_) fun c head => by rw [head?_databaseText c head]; rfl
      rcases mem_toString mem with rfl | digit
      · rfl
      · have apart : c ≠ '/' ∧ c ≠ '?' :=
          ⟨fun same => absurd (same ▸ digit) (by decide),
            fun same => absurd (same ▸ digit) (by decide)⟩
        simp [apart]

theorem closes_numberText : Closes (a.numberText ++ a.databaseText) := by
  intro c head
  unfold numberText at head
  cases number : a.portNumber? with
  | none =>
      rw [number] at head
      exact .inl (head?_databaseText c head)
  | some n =>
      rw [number] at head
      exact .inr (Option.some.inj head).symm

/-- A number goes up to the slash of the database, and contains no sign. -/
theorem mem_takeWhile_numberText {c : Char}
    (mem : c ∈ (a.numberText ++ a.databaseText).takeWhile fun c => !(c == '/' || c == '?')) :
    c ∈ a.numberText := by
  have none : a.databaseText.takeWhile (fun c => !(c == '/' || c == '?')) = [] :=
    (takeWhile_of_head? fun c head => by rw [head?_databaseText c head]; rfl).1
  rw [List.takeWhile_append, none, List.append_nil] at mem
  split at mem
  · exact mem
  · exact (List.takeWhile_sublist _).subset mem

/-- A number is written with a colon, digits and a minus. -/
theorem mem_numberText {c : Char} (mem : c ∈ a.numberText) :
    c = ':' ∨ c = '-' ∨ c.isDigit = true := by
  unfold numberText at mem
  cases number : a.portNumber? with
  | none => simp [number] at mem
  | some n =>
      rw [number, List.mem_cons] at mem
      exact mem.imp id mem_toString

theorem readHost_hostText (h : a.IsWritable) :
    readHost (a.hostText ++ (a.numberText ++ a.databaseText)) =
      (a.host?.map String.toList, a.numberText ++ a.databaseText) := by
  unfold hostText
  cases named : a.host? with
  | none => exact readHost_of_closes closes_numberText
  | some host =>
      obtain ⟨present, free⟩ := h.host host named
      have present : host.toList ≠ [] := fun none => present (String.toList_eq_nil_iff.mp none)
      have apart {c d : Char} (mem : c ∈ host.toList)
          (mark : d ∈ ['/', '?', '@', '[', ']']) : c ≠ d := fun same => free c mem (same ▸ mark)
      -- a host with a colon is written in brackets, any other one as it is
      by_cases colon : host.contains ':' = true
      · simp only [colon, if_true]
        rw [List.cons_append, List.append_assoc]
        refine readHost_bracketed present (fun c mem => ?_) fun mem => ?_
        · simp [apart mem (show '/' ∈ _ by decide), apart mem (show '?' ∈ _ by decide)]
        · rcases mem_numberText (mem_takeWhile_numberText mem) with same | same | digit
          · cases same
          · cases same
          · exact absurd digit (by decide)
      · simp only [colon]
        refine readHost_append present (fun c mem => ?_) ?_ closes_numberText
        · have other : c ≠ ':' := by
            rintro rfl
            exact colon (by simpa using mem)
          simp [apart mem (show '/' ∈ _ by decide), apart mem (show '?' ∈ _ by decide), other]
        · exact fun mem => apart mem (show '[' ∈ _ by decide) rfl

/-- No at sign stands behind the user. -/
theorem notMem_behindUser (h : a.IsWritable) :
    '@' ∉ a.hostText ++ (a.numberText ++ a.databaseText) := by
  rw [List.mem_append, List.mem_append]
  rintro (mem | mem | mem)
  case inl =>
    unfold hostText at mem
    cases named : a.host? with
    | none => simp [named] at mem
    | some host =>
        have absent : '@' ∉ host.toList := fun mem =>
          (h.host host named).2 '@' mem (by decide)
        rw [named] at mem
        dsimp only at mem
        split at mem
        · simp [absent] at mem
        · exact absent mem
  case inr.inl =>
    rcases mem_numberText mem with same | same | digit
    · cases same
    · cases same
    · exact absurd digit (by decide)
  case inr.inr =>
    unfold databaseText at mem
    cases named : a.database? with
    | none => simp [named] at mem
    | some name =>
        rw [named, List.mem_cons] at mem
        rcases mem with same | mem
        · cases same
        · exact notMem_percentEncode _ (by decide) (by decide) mem

/-- The user and the stars, as they are read: without a user there are no stars. -/
theorem readUser_userText {rest : List Char} (absent : '@' ∉ rest) :
    readUser (a.userText ++ rest) =
      (a.user?.map fun user => percentEncode " +".toList user.toList,
        a.user?.bind fun _ => a.password?.map fun _ => "***".toList, rest) := by
  unfold userText
  cases a.user? with
  | none => exact readUser_of_notMem absent
  | some user =>
      have colon : ':' ∉ percentEncode " +".toList user.toList :=
        notMem_percentEncode _ (by decide) (by decide)
      have slash : '/' ∉ percentEncode " +".toList user.toList :=
        notMem_percentEncode _ (by decide) (by decide)
      have free : ∀ c ∈ percentEncode " +".toList user.toList,
          (!(c == ':' || c == '/')) = true := by
        intro c mem
        rw [Bool.not_or]
        exact Bool.and_eq_true_iff.mpr ⟨ne_of_notMem colon c mem, ne_of_notMem slash c mem⟩
      cases a.password? with
      | none =>
          rw [List.append_assoc]
          exact readUser_append free absent
      | some password =>
          rw [List.append_assoc, List.cons_append, List.append_assoc]
          exact readUser_password free (by decide) rest

/-- What is written is read back, but for the password: of that only the presence is written, and
only behind a user. -/
theorem ofUrl_toUrl (h : a.IsWritable) :
    ofUrl a.toUrl =
      .ok { a with password? := a.user?.bind fun _ => a.password?.map fun _ => "***" } := by
  obtain ⟨named, word⟩ := h.driver
  have run : a.toUrl.toList.takeWhile (fun c => isWordChar c || c == '+') = a.driver.toList := by
    rw [toList_toUrl h.query, List.takeWhile_append_of_pos word,
      List.takeWhile_cons_of_neg (by decide), List.append_nil]
  have behind : behindSlashes? (a.toUrl.toList.dropWhile fun c => isWordChar c || c == '+') =
      some (a.userText ++ (a.hostText ++ (a.numberText ++ a.databaseText))) := by
    rw [toList_toUrl h.query, List.dropWhile_append_of_pos word,
      List.dropWhile_cons_of_neg (by decide)]
    rfl
  have driver : a.driver.toList.isEmpty = false := by
    simpa [String.toList_eq_nil_iff] using named
  have number : (a.portNumber?.map fun n => (toString n).toList).mapM readPortNumber =
      .ok a.portNumber? := by
    cases number : a.portNumber? with
    | none => rfl
    | some n =>
        have read : readPortNumber (toString n).toList = .ok n := by
          rw [readPortNumber, String.ofList_toList, readInteger_toString (h.portNumber n number)]
          rfl
        exact congrArg (some <$> ·) read
  have parts {safe : List Char} (plain : ∀ c ∈ safe, isAscii c = true) (marked : '%' ∉ safe)
      (part? : Option String) :
      (part?.map fun part => percentEncode safe part.toList).map decoded = part? := by
    cases part? with
    | none => rfl
    | some part =>
        rw [Option.map_some, Option.map_some, decoded, percentDecode_percentEncode plain marked,
          String.ofList_toList]
  have stars : (a.user?.bind fun _ => a.password?.map fun _ => "***".toList).map decoded =
      a.user?.bind fun _ => a.password?.map fun _ => "***" := by
    have read : decoded "***".toList = "***" := by
      rw [decoded, percentDecode_of_notMem (List.all_eq_true.mp rfl) (by decide),
        String.ofList_toList]
    cases a.user? <;> cases a.password? <;> first | rfl | exact congrArg some read
  have host : (a.host?.map String.toList).map String.ofList = a.host? := by
    cases a.host? with
    | none => rfl
    | some host => exact congrArg some String.ofList_toList
  unfold ofUrl
  simp only [run, behind, driver, readUser_userText (notMem_behindUser h),
    readHost_hostText h, readPart_numberText, readPart_databaseText]
  rw [number, parts (List.all_eq_true.mp rfl) (by decide),
    parts (List.all_eq_true.mp rfl) (by decide), stars, host, String.ofList_toList, h.query]
  -- nothing is left behind the database, so that the query read is the empty one
  rfl

end BoundSql.DatabaseAddress
