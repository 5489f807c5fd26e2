import Oak.Prost.Message
import Oak.Lib.Collect
import Oak.Lib.Batch

/-! The lookup data of the Oak Functions loader (oak_functions/loader/src/lookup.rs), and the
random entries of the lookup data generator (lookup_data_generator/src/data.rs) that it
reads. The data is a run of length-delimited `Entry` messages; the loader reads them into a
map, an entry under a key replacing the one before it. A refresh replaces the whole map when
the fetch and the parse succeed, and leaves the map as it was otherwise: a reader sees the
entries of one fetch, never a mix of two.

Fetching (a file read, or an HTTP download with its access token) is left out: a refresh is
given what `fetch_lookup_data` returned. The logger, the timers and the lock are left out.
The generator's random bytes come from a generator given as a state and a `fill` function. -/

namespace Oak.Functions

open Oak.Lib Oak.Prost

/-- The `HashMap<Vec<u8>, Vec<u8>>` of the lookup entries. -/
abbrev Entries := AList fun _ : List UInt8 => List UInt8

/-- What an error of `refresh` started as. -/
inductive LookupErrorCause
  /-- An error of `fetch_lookup_data`: of the file read, of the request, or of the token. -/
  | fetch (msg : String)
  /-- An error of `Entry::decode_length_delimited`. -/
  | decode (e : DecodeError)
  deriving DecidableEq, Repr

/-- An `anyhow::Error`: the contexts added to it, the outermost first, over its cause. -/
structure LookupError where
  contexts : List String
  cause : LookupErrorCause
  deriving DecidableEq, Repr

/-! ### Parsing -/

/-- `parse_lookup_entries`. -/
def parseLookupEntries (buf : List UInt8) : Except LookupError Entries :=
  loop ∅ buf
where
  /-- The `while` loop: read entries while the buffer has bytes left. -/
  loop (entries : Entries) (buf : List UInt8) : Except LookupError Entries :=
    if buf = [] then .ok entries
    else
      match h : Entry.decodeLengthDelimited buf with
      | .error e => .error ⟨["could not decode entry"], .decode e⟩
      | .ok (entry, rest) => loop (entries.insert entry.key entry.value) rest
  termination_by buf.length
  decreasing_by exact decodeLengthDelimited_length_lt h

section Parse

variable {entries : Entries}

theorem parseLookupEntries_loop_nil : parseLookupEntries.loop entries [] = .ok entries := by
  rw [parseLookupEntries.loop, if_pos rfl]

theorem parseLookupEntries_loop_encode {e : Entry} (he : e.encodedLen < 2 ^ 64) (rest : List UInt8) :
    parseLookupEntries.loop entries (e.encodeLengthDelimited ++ rest) =
      parseLookupEntries.loop (entries.insert e.key e.value) rest := by
  have hne : e.encodeLengthDelimited ++ rest ≠ [] := by
    apply List.ne_nil_of_length_pos
    simp [Entry.encodeLengthDelimited, encodeVarint_eq_varint, length_varint, varintLen_eq_log2]
  rw [parseLookupEntries.loop, if_neg hne]
  split
  · next err herr =>
    rw [Entry.decodeLengthDelimited_encodeLengthDelimited e he] at herr
    cases herr
  · next entry rest' hdec =>
    rw [Entry.decodeLengthDelimited_encodeLengthDelimited e he] at hdec
    cases hdec
    rfl

theorem parseLookupEntries_loop_flatMap (es : List Entry) (hes : ∀ e ∈ es, e.encodedLen < 2 ^ 64)
    (entries : Entries) (rest : List UInt8) :
    parseLookupEntries.loop entries (es.flatMap Entry.encodeLengthDelimited ++ rest) =
      parseLookupEntries.loop (es.foldl (fun m e => m.insert e.key e.value) entries) rest := by
  induction es generalizing entries with
  | nil => rfl
  | cons e es ih =>
    rw [List.flatMap_cons, List.append_assoc, parseLookupEntries_loop_encode (hes e List.mem_cons_self),
      ih (fun e' he' => hes e' (List.mem_cons_of_mem _ he')), List.foldl_cons]

theorem parseLookupEntries_flatMap (es : List Entry) (hes : ∀ e ∈ es, e.encodedLen < 2 ^ 64) :
    parseLookupEntries (es.flatMap Entry.encodeLengthDelimited) =
      .ok (collect (es.map fun e => (e.key, e.value))) := by
  have h := parseLookupEntries_loop_flatMap es hes ∅ []
  rw [List.append_nil, parseLookupEntries_loop_nil] at h
  rw [parseLookupEntries, h, collect, List.foldl_map]

/-- The loader finds under a key the value of the last entry written under it. -/
theorem parse_lookup_entries_finds_last (es : List Entry) (hes : ∀ e ∈ es, e.encodedLen < 2 ^ 64)
    (key : List UInt8) :
    (parseLookupEntries (es.flatMap Entry.encodeLengthDelimited)).map (fun entries => entries.lookup key) =
      .ok ((es.reverse.find? fun e => e.key = key).map Entry.value) := by
  rw [parseLookupEntries_flatMap es hes, Except.map, lookup_collect_eq, ← List.map_reverse, List.find?_map,
    Option.map_map]
  rfl

theorem parse_lookup_entries_finds_second :
    (parseLookupEntries ([⟨[1], [2]⟩, ⟨[1], [3]⟩].flatMap Entry.encodeLengthDelimited)).map
      (fun entries => entries.lookup [1]) = .ok (some [3]) :=
  parse_lookup_entries_finds_last [⟨[1], [2]⟩, ⟨[1], [3]⟩]
    (fun e he => e.encodedLen_lt (by rcases List.mem_pair.1 he with rfl | rfl <;> decide)) [1]

theorem parseLookupEntries_loop_error {buf : List UInt8} {err : LookupError}
    (h : parseLookupEntries.loop entries buf = .error err) :
    err.contexts = ["could not decode entry"] ∧ ∃ e, err.cause = .decode e := by
  induction entries, buf using parseLookupEntries.loop.induct with
  | case1 entries =>
    rw [parseLookupEntries_loop_nil] at h
    cases h
  | case2 entries buf hne e he =>
    rw [parseLookupEntries.loop, if_neg hne] at h
    split at h
    · cases h
      exact ⟨rfl, _, rfl⟩
    · next entry rest hdec =>
      rw [he] at hdec
      cases hdec
  | case3 entries buf hne entry rest hdec ih =>
    rw [parseLookupEntries.loop, if_neg hne] at h
    split at h
    · next e he =>
      rw [hdec] at he
      cases he
    · next entry' rest' hdec' =>
      rw [hdec] at hdec'
      cases hdec'
      exact ih h

end Parse

/-! ### The generator -/

/-- A random number generator as `create_bytes` uses it: `fill s n` is `n` random bytes,
and the generator's next state. -/
structure Rng (σ : Type) where
  fill : σ → ℕ → List UInt8 × σ
  length_fill : ∀ s n, (fill s n).1.length = n

section Generator

variable {σ : Type} (R : Rng σ)

/-- `create_bytes`. -/
def createBytes (rng : σ) (sizeBytes : ℕ) : List UInt8 × σ :=
  R.fill rng sizeBytes

/-- `create_random_entry`. -/
def createRandomEntry (rng : σ) (keySizeBytes valueSizeBytes : ℕ) : Entry × σ :=
  let (key, rng) := createBytes R rng keySizeBytes
  let (value, rng) := createBytes R rng valueSizeBytes
  (⟨key, value⟩, rng)

/-- `generate_and_serialize_random_entries`: `entries` random entries, each written
length-delimited after the ones before. Writing into a `BytesMut` does not fail short of
`usize::MAX` bytes, so the model does not check for room. -/
def generateAndSerializeRandomEntries (rng : σ) (keySizeBytes valueSizeBytes : ℕ) : ℕ → List UInt8 × σ
  | 0 => ([], rng)
  | entries + 1 =>
    let (buf, rng) := generateAndSerializeRandomEntries rng keySizeBytes valueSizeBytes entries
    let (entry, rng) := createRandomEntry R rng keySizeBytes valueSizeBytes
    (buf ++ entry.encodeLengthDelimited, rng)

theorem createRandomEntry_length (rng : σ) (keySizeBytes valueSizeBytes : ℕ) :
    (createRandomEntry R rng keySizeBytes valueSizeBytes).1.key.length = keySizeBytes ∧
      (createRandomEntry R rng keySizeBytes valueSizeBytes).1.value.length = valueSizeBytes :=
  ⟨R.length_fill _ _, R.length_fill _ _⟩

theorem generateAndSerializeRandomEntries_eq (rng : σ) (keySizeBytes valueSizeBytes entries : ℕ) :
    ∃ es : List Entry, es.length = entries ∧
      (∀ e ∈ es, e.key.length = keySizeBytes ∧ e.value.length = valueSizeBytes) ∧
      (generateAndSerializeRandomEntries R rng keySizeBytes valueSizeBytes entries).1 =
        es.flatMap Entry.encodeLengthDelimited := by
  induction entries with
  | zero => exact ⟨[], rfl, by simp, rfl⟩
  | succ n ih =>
    obtain ⟨es, hlen, hsizes, hbuf⟩ := ih
    let e := (createRandomEntry R (generateAndSerializeRandomEntries R rng keySizeBytes valueSizeBytes n).2
      keySizeBytes valueSizeBytes).1
    refine ⟨es ++ [e], by simp [hlen], ?_, ?_⟩
    · intro e' he'
      rcases List.mem_append.1 he' with he' | he'
      · exact hsizes e' he'
      · rw [List.mem_singleton.1 he']
        exact createRandomEntry_length R _ _ _
    · have hstep : (generateAndSerializeRandomEntries R rng keySizeBytes valueSizeBytes (n + 1)).1 =
          (generateAndSerializeRandomEntries R rng keySizeBytes valueSizeBytes n).1 ++ e.encodeLengthDelimited :=
        rfl
      rw [hstep, hbuf, List.flatMap_append, List.flatMap_singleton]

/-- The loader reads back what the generator writes: the map of `entries` entries of the
sizes asked for. -/
theorem random_entries_parse (rng : σ) (keySizeBytes valueSizeBytes entries : ℕ)
    (hsize : keySizeBytes + valueSizeBytes < 2 ^ 63) :
    ∃ es : List Entry, es.length = entries ∧
      (∀ e ∈ es, e.key.length = keySizeBytes ∧ e.value.length = valueSizeBytes) ∧
      parseLookupEntries (generateAndSerializeRandomEntries R rng keySizeBytes valueSizeBytes entries).1 =
        .ok (collect (es.map fun e => (e.key, e.value))) := by
  obtain ⟨es, hlen, hsizes, hbuf⟩ := generateAndSerializeRandomEntries_eq R rng keySizeBytes valueSizeBytes entries
  refine ⟨es, hlen, hsizes, ?_⟩
  rw [hbuf]
  apply parseLookupEntries_flatMap
  intro e he
  obtain ⟨hkey, hvalue⟩ := hsizes e he
  exact e.encodedLen_lt (by omega)

end Generator

theorem random_entries_parse_zero_filled :
    ∃ es : List Entry, es.length = 3 ∧ (∀ e ∈ es, e.key.length = 4 ∧ e.value.length = 8) ∧
      parseLookupEntries (generateAndSerializeRandomEntries
        ⟨fun (s : Unit) n => (List.replicate n 0, s), fun _ _ => List.length_replicate⟩ () 4 8 3).1 =
        .ok (collect (es.map fun e => (e.key, e.value))) :=
  random_entries_parse _ () 4 8 3 (by decide)

/-! ### The store -/

/-- `LookupDataAuth`. -/
inductive LookupDataAuth
  | none
  | gcpMetadataToken
  deriving DecidableEq, Repr

/-- `LookupDataSource`. -/
inductive LookupDataSource
  | http (url : String) (auth : LookupDataAuth)
  | file (path : String)
  deriving DecidableEq, Repr

/-- `LookupData`, without its logger and with its entries out of their lock. -/
structure LookupData where
  lookupDataSource : Option LookupDataSource
  entries : Entries

namespace LookupData

/-- `LookupData::new_empty`. -/
def newEmpty (lookupDataSource : Option LookupDataSource) : LookupData :=
  ⟨lookupDataSource, ∅⟩

/-- `LookupData::refresh`, given what `fetch_lookup_data` returned for the source: its
result, and the store after it. -/
def refresh (d : LookupData) (fetched : Except String (List UInt8)) : Except LookupError Unit × LookupData :=
  match d.lookupDataSource with
  | none => (.ok (), d)
  | some _ =>
    match fetched with
    | .error msg => (.error ⟨[], .fetch msg⟩, d)
    | .ok buf =>
      match parseLookupEntries buf with
      | .error e => (.error { e with contexts := "could not parse lookup data" :: e.contexts }, d)
      | .ok entries => (.ok (), { d with entries })

/-- `LookupData::get`. -/
def get (d : LookupData) (key : List UInt8) : Option (List UInt8) :=
  d.entries.lookup key

/-- The entries a refresh reads from what was fetched, if the fetch and the parse succeed. -/
def parsed (fetched : Except String (List UInt8)) : Option Entries :=
  match fetched with
  | .error _ => none
  | .ok buf => (parseLookupEntries buf).toOption

theorem refresh_lookupDataSource (d : LookupData) (fetched : Except String (List UInt8)) :
    (d.refresh fetched).2.lookupDataSource = d.lookupDataSource := by
  unfold refresh
  split
  · rfl
  · split
    · rfl
    · split <;> rfl

theorem refresh_of_none {d : LookupData} (hd : d.lookupDataSource = none) (fetched : Except String (List UInt8)) :
    d.refresh fetched = (.ok (), d) := by
  simp only [refresh, hd]

section Source

variable {d : LookupData} {src : LookupDataSource} (hd : d.lookupDataSource = some src)
  {fetched : Except String (List UInt8)}
include hd

theorem refresh_of_parsed_some {entries : Entries} (hp : parsed fetched = some entries) :
    d.refresh fetched = (.ok (), { d with entries }) := by
  cases fetched with
  | error msg => cases hp
  | ok buf =>
    cases h : parseLookupEntries buf with
    | error e => simp [parsed, h, Except.toOption] at hp
    | ok entries' =>
      simp only [parsed, h, Except.toOption, Option.some.injEq] at hp
      subst hp
      simp only [refresh, hd, h]

theorem refresh_of_parsed_none (hp : parsed fetched = none) :
    (d.refresh fetched).2 = d ∧ ∃ err, (d.refresh fetched).1 = .error err := by
  cases fetched with
  | error msg =>
    simp only [refresh, hd, true_and]
    exact ⟨_, rfl⟩
  | ok buf =>
    cases h : parseLookupEntries buf with
    | error e =>
      simp only [refresh, hd, h, true_and]
      exact ⟨_, rfl⟩
    | ok entries => simp [parsed, h, Except.toOption] at hp

end Source

theorem refresh_of_error {d : LookupData} {fetched : Except String (List UInt8)} {err : LookupError}
    (h : (d.refresh fetched).1 = .error err) : (d.refresh fetched).2 = d := by
  cases hd : d.lookupDataSource with
  | none => rw [refresh_of_none hd]
  | some src =>
    cases hp : parsed fetched with
    | none => exact (refresh_of_parsed_none hd hp).1
    | some entries =>
      rw [refresh_of_parsed_some hd hp] at h
      cases h

/-- Over a run of refreshes, the store holds the entries of the last refresh whose fetch and
parse succeeded, or the entries it started with if none did: the refreshes in between, failed
or not, leave nothing of their own behind. -/
theorem refresh_keeps_last_parsed {d : LookupData} {src : LookupDataSource} (hd : d.lookupDataSource = some src)
    (fetches : List (Except String (List UInt8))) :
    (feed refresh d fetches).2.entries = ((fetches.filterMap parsed).getLast?).getD d.entries := by
  induction fetches generalizing d with
  | nil => rfl
  | cons fetched fetches ih =>
    have hd' : (d.refresh fetched).2.lookupDataSource = some src := by
      rw [refresh_lookupDataSource, hd]
    rw [feed_cons, ih hd']
    cases hp : parsed fetched with
    | none => rw [(refresh_of_parsed_none hd hp).1, List.filterMap_cons_none hp]
    | some entries =>
      rw [refresh_of_parsed_some hd hp, List.filterMap_cons_some hp, List.getLast?_cons, Option.getD_some]

theorem refresh_keeps_last_parsed_after_failed_fetch :
    (feed refresh (newEmpty (some (.file "lookup_data"))) [.ok [], .error "not found"]).2.entries =
      (([.ok [], .error "not found"].filterMap parsed).getLast?).getD ∅ :=
  refresh_keeps_last_parsed rfl _

theorem refresh_error {d : LookupData} {fetched : Except String (List UInt8)} {err : LookupError}
    (h : (d.refresh fetched).1 = .error err) :
    (err.contexts = [] ∧ ∃ msg, fetched = .error msg ∧ err.cause = .fetch msg) ∨
      (err.contexts = ["could not parse lookup data", "could not decode entry"] ∧ ∃ e, err.cause = .decode e) := by
  unfold refresh at h
  split at h
  · cases h
  · split at h
    · next msg =>
      cases h
      exact .inl ⟨rfl, msg, rfl, rfl⟩
    · split at h
      · next e he =>
        cases h
        obtain ⟨hctx, hcause⟩ := parseLookupEntries_loop_error he
        exact .inr ⟨by rw [hctx], hcause⟩
      · cases h

end LookupData

end Oak.Functions
