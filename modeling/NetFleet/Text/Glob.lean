/-!
# Shell patterns of file names

`matchName` decides whether a file name matches a shell pattern, the way the
path library of the source decides it, and `glob` lists the names that a pattern
matches, sorted. In a pattern, `*` stands for any run of characters without the
separator `/`, `?` for any one character but the separator, `[...]` for one
character of a class (`[^...]` for one outside it, with ranges such as `a-z`),
and a backslash takes the next character as it is.

The match runs chunk by chunk, a chunk being what stands between two stars. A
chunk after a star is tried at the first position where it fits, and the match
goes on from there without coming back; only the last chunk, which must end the
name, is tried further. A pattern that is not well formed (a class that is empty
or not closed, a range with a bound missing, a backslash at the end) is refused
whatever the name: each chunk is read to its end, also after the match failed,
and the chunks after a failure are read too.

The match reads characters. The source reads bytes, so that a star can stop
inside a character of several bytes, where a `?` or a class then reads a single
byte; the two differ only there.
-/

namespace NetFleet.Text

/-- The chunk at the head of a pattern, read after its stars: the characters up to
the next star outside a class, and the rest of the pattern. A backslash takes the
character after it into the chunk. -/
def chunkSpan (inRange : Bool) : List Char → List Char × List Char
  | [] => ([], [])
  | '\\' :: c :: cs => Prod.map (fun ch => '\\' :: c :: ch) id (chunkSpan inRange cs)
  | c :: cs =>
    if c = '*' ∧ !inRange then ([], c :: cs)
    else Prod.map (c :: ·) id
      (chunkSpan (if c = '[' then true else if c = ']' then false else inRange) cs)

/-- The next chunk of a pattern: whether stars lead it, the chunk, and the rest of
the pattern after it. -/
def scanChunk (p : List Char) : Bool × List Char × List Char :=
  let q := p.dropWhile (· = '*')
  (q.length < p.length, chunkSpan false q)

/-- Where the reading of a class stands: at its start (after the bracket and the
caret), after a range, after a backslash where a range starts, after the first
character `c` of a range, after its dash, or after a backslash where it ends. -/
inductive ClassState
  | start
  | between
  | escLo
  | lo (c : Char)
  | dash (c : Char)
  | escHi (c : Char)

/-- Reads the rest of a class: whether `r` falls in one of its ranges (`m` so far),
and the rest of the chunk after the closing bracket; `none` when the class is not
well formed. A closing bracket ends the class once it holds a range; a dash or a
closing bracket cannot stand unescaped where a range starts or ends. -/
def classScan (r : Char) (m : Bool) : ClassState → List Char → Option (Bool × List Char)
  | _, [] => none
  | .start, x :: xs =>
    if x = ']' ∨ x = '-' then none
    else if x = '\\' then classScan r m .escLo xs
    else classScan r m (.lo x) xs
  | .between, x :: xs =>
    if x = ']' then some (m, xs)
    else if x = '-' then none
    else if x = '\\' then classScan r m .escLo xs
    else classScan r m (.lo x) xs
  | .escLo, x :: xs => classScan r m (.lo x) xs
  | .lo c, x :: xs =>
    if x = '-' then classScan r m (.dash c) xs
    else if x = ']' then some (m || c == r, xs)
    else if x = '\\' then classScan r (m || c == r) .escLo xs
    else classScan r (m || c == r) (.lo x) xs
  | .dash c, x :: xs =>
    if x = '-' ∨ x = ']' then none
    else if x = '\\' then classScan r m (.escHi c) xs
    else classScan r (m || (c ≤ r && r ≤ x)) .between xs
  | .escHi c, x :: xs => classScan r (m || (c ≤ r && r ≤ x)) .between xs

/-- A class takes at least its closing bracket from the chunk. -/
theorem classScan_length {r : Char} {m m' : Bool} {st : ClassState} {cs rest : List Char}
    (h : classScan r m st cs = some (m', rest)) : rest.length < cs.length := by
  fun_induction classScan r m st cs generalizing m' <;> simp_all <;> grind

/-- A caret after the opening bracket of a class negates it. -/
def caret : List Char → Bool × List Char
  | '^' :: cs => (true, cs)
  | cs => (false, cs)

theorem caret_length (cs : List Char) : (caret cs).2.length ≤ cs.length := by
  unfold caret
  split <;> simp

/-- The name after its first character, when it is `c`. -/
def afterChar (c : Char) : Option (List Char) → Option (List Char)
  | some (d :: t) => if c = d then some t else none
  | _ => none

/-- The name after its first character, when it is not the separator. -/
def afterAny : Option (List Char) → Option (List Char)
  | some (c :: t) => if c = '/' then none else some t
  | _ => none

/-- The name after its first character. -/
def afterHead : Option (List Char) → Option (List Char)
  | some (_ :: t) => some t
  | _ => none

/-- The first character of the name, if there is one. -/
def headOr : Option (List Char) → Char
  | some (c :: _) => c
  | _ => '\x00'

/-- The rest of the name after a chunk that matches at its start (`some none` when
it does not match there), or a refusal when the chunk is not well formed. The
name is `none` once the match has failed; the chunk is still read to its end. -/
def matchChunk : List Char → Option (List Char) → Except Unit (Option (List Char))
  | [], s => .ok s
  | '[' :: cs, s =>
    match h : classScan (headOr s) false .start (caret cs).2 with
    | none => .error ()
    | some (m, rest) =>
      have := classScan_length h
      have := caret_length cs
      matchChunk rest (if m == (caret cs).1 then none else afterHead s)
  | '?' :: cs, s => matchChunk cs (afterAny s)
  | '\\' :: c :: cs, s => matchChunk cs (afterChar c s)
  | ['\\'], _ => .error ()
  | c :: cs, s => matchChunk cs (afterChar c s)
termination_by chunk => chunk.length
decreasing_by all_goals simp_all <;> omega

/-- A chunk after a star, tried at each later position of the name before a
separator: the rest of the name after the first position where it matches and,
for the last chunk of the pattern, where it also ends the name. -/
def skipMatch (chunk : List Char) (last : Bool) : List Char → Except Unit (Option (List Char))
  | [] => .ok none
  | c :: cs =>
    if c = '/' then .ok none
    else match matchChunk chunk (some cs) with
      | .error e => .error e
      | .ok (some t) => if last && !t.isEmpty then skipMatch chunk last cs else .ok (some t)
      | .ok none => skipMatch chunk last cs

theorem chunkSpan_length (b : Bool) (p : List Char) : (chunkSpan b p).2.length ≤ p.length := by
  fun_induction chunkSpan b p <;> simp_all <;> omega

/-- A chunk that does not start with a star takes at least one character. -/
theorem chunkSpan_length_lt {b : Bool} {c : Char} {cs : List Char} (hc : c ≠ '*') :
    (chunkSpan b (c :: cs)).2.length < cs.length + 1 := by
  unfold chunkSpan
  split
  · contradiction
  · next d ds heq =>
    obtain ⟨-, rfl⟩ := List.cons.inj heq
    have := chunkSpan_length b ds
    simp only [Prod.map_snd, id_eq, List.length_cons]
    omega
  · next d ds _ heq =>
    obtain ⟨rfl, rfl⟩ := List.cons.inj heq
    split
    · next h => exact absurd h.1 hc
    · have := chunkSpan_length (if c = '[' then true else if c = ']' then false else b) cs
      simp only [Prod.map_snd, id_eq]
      omega

/-- The rest of a pattern after its next chunk is shorter than the pattern. -/
theorem scanChunk_length {p : List Char} (hp : p ≠ []) : (scanChunk p).2.2.length < p.length := by
  obtain ⟨c, cs, rfl⟩ := List.exists_cons_of_ne_nil hp
  unfold scanChunk
  by_cases hc : c = '*'
  · -- the leading stars go first
    have hdrop : ((c :: cs).dropWhile (· = '*')).length ≤ cs.length := by
      rw [List.dropWhile_cons_of_pos (by simpa using hc)]
      exact (List.dropWhile_suffix _).length_le
    have := chunkSpan_length false ((c :: cs).dropWhile (· = '*'))
    simp only [List.length_cons]
    omega
  · rw [List.dropWhile_cons_of_neg (by simpa using hc)]
    exact chunkSpan_length_lt hc

/-- Whether the rest of a pattern is well formed, read chunk by chunk. -/
def checkRest (p : List Char) : Except Unit Unit :=
  if h : p = [] then .ok ()
  else
    have := scanChunk_length h
    match matchChunk (scanChunk p).2.1 (some []) with
    | .error e => .error e
    | .ok _ => checkRest (scanChunk p).2.2
termination_by p.length

/-- Whether `name` matches the pattern `p`; `.error ()` when the pattern is not well
formed. -/
def matchName (p name : List Char) : Except Unit Bool :=
  if h : p = [] then .ok name.isEmpty
  else
    have := scanChunk_length h
    let star := (scanChunk p).1
    let chunk := (scanChunk p).2.1
    let rest := (scanChunk p).2.2
    -- a star at the end takes the rest of the name, up to a separator
    if star && chunk.isEmpty then .ok (!name.contains '/')
    else
      match matchChunk chunk (some name) with
      | .error e => .error e
      | .ok r =>
        match r.filter (fun t => t.isEmpty || !rest.isEmpty) with
        | some t => matchName rest t
        | none =>
          match (if star then skipMatch chunk rest.isEmpty name else .ok none) with
          | .error e => .error e
          | .ok (some t) => matchName rest t
          | .ok none => (checkRest rest).map fun _ => false
termination_by p.length

/-- The names among `names` that the pattern matches, sorted; a pattern that is not
well formed is refused, whatever the names. -/
def glob (pattern : String) (names : List String) : Except Unit (List String) :=
  match matchName pattern.toList [] with
  | .error e => .error e
  | .ok _ =>
    .ok ((names.filter fun n => (matchName pattern.toList n.toList).toOption == some true).mergeSort
      fun a b => decide (a ≤ b))

end NetFleet.Text
