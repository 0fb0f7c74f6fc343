/-
**A document is read back from its text.**

Both texts of a document, the one without blanks and the indented one, spell the same tokens.

* `ofTokens?_tokens`: the tokens of a document spell it;
* `Writes`: a text spells some tokens wherever no octet of a number follows it;
* `writes_compact` and `writes_prettyAt`: the texts of a document spell its tokens, if its numbers
  are integers and its strings denote texts (`Writable`);
* `ofText?_compact` and `ofText?_pretty`: so they are read as the document.
-/

import ClientAssertion.Json.Document
import ClientAssertion.Proofs.Json.Record
import ClientAssertion.Proofs.Json.Token

namespace ClientAssertion.Json

/-! ### The tokens of a document -/

mutual

/-- The tokens of a document. -/
def tokens : Json → List Token
  | .array items => .openArray :: ([.comma].intercalate (itemTokens items) ++ [.closeArray])
  | .object members => .openObject :: ([.comma].intercalate (memberTokens members) ++ [.closeObject])
  | value => [.scalar value]

/-- The tokens of each item. -/
def itemTokens : List Json → List (List Token)
  | [] => []
  | item :: items => tokens item :: itemTokens items

/-- The tokens of each member. -/
def memberTokens : List (Option String × Json) → List (List Token)
  | [] => []
  | (name, value) :: members =>
    (.scalar (.string name) :: .colon :: tokens value) :: memberTokens members

end

theorem itemTokens_eq_map (items : List Json) : itemTokens items = items.map tokens := by
  induction items with
  | nil => rfl
  | cons item items hypothesis => rw [itemTokens, hypothesis, List.map_cons]

/-- The tokens of a member. -/
def tokensOfMember (member : Option String × Json) : List Token :=
  .scalar (.string member.1) :: .colon :: member.2.tokens

theorem memberTokens_eq_map (members : List (Option String × Json)) :
    memberTokens members = members.map tokensOfMember := by
  induction members with
  | nil => rfl
  | cons member members hypothesis => rw [memberTokens, hypothesis, List.map_cons, tokensOfMember]

namespace Builder

/-- Where a value is awaited, its tokens supply it. -/
def Reads (document : Json) : Prop :=
  ∀ outer rest, run ⟨.value, outer⟩ (document.tokens ++ rest) = run (supply document outer) rest

theorem run_step {builder next : Builder} {token : Token} (step : builder.step token = some next)
    (rest : List Token) : run builder (token :: rest) = run next rest := by
  rw [run, step, Option.bind_some]

/-! ### Containers -/

/-- Parts with commas between them are read one by one; `done` are the parts before, last first. -/
theorem run_parts {Part : Type} {spelled : Part → List Token} {awaiting behind : List Part → Builder}
    (comma : ∀ done, (behind done).step .comma = some (awaiting done)) {first : Part}
    {parts : List Part}
    (each : ∀ part ∈ first :: parts, ∀ done rest,
      run (awaiting done) (spelled part ++ rest) = run (behind (part :: done)) rest)
    (done : List Part) (rest : List Token) :
    run (awaiting done) ([.comma].intercalate ((first :: parts).map spelled) ++ rest) =
      run (behind ((first :: parts).reverse ++ done)) rest := by
  -- The part that is read moves from the list to those that are done, so `done` varies.
  induction parts generalizing first done with
  | nil =>
    rw [List.map_cons, List.map_nil, List.intercalate_singleton]
    exact each first List.mem_cons_self done rest
  | cons next parts hypothesis =>
    have later := hypothesis (fun part member => each part (List.mem_cons_of_mem _ member))
      (first :: done)
    calc run (awaiting done) ([.comma].intercalate ((first :: next :: parts).map spelled) ++ rest)
        = run (awaiting done) (spelled first ++
            (.comma :: ([.comma].intercalate ((next :: parts).map spelled) ++ rest))) := by
          rw [List.map_cons, List.map_cons, List.intercalate_cons_cons, List.append_assoc,
            List.append_assoc, List.singleton_append]
      _ = run (behind (first :: done))
            (.comma :: ([.comma].intercalate ((next :: parts).map spelled) ++ rest)) :=
          each first List.mem_cons_self done _
      _ = run (awaiting (first :: done))
            ([.comma].intercalate ((next :: parts).map spelled) ++ rest) := run_step (comma _) _
      _ = run (behind ((first :: next :: parts).reverse ++ done)) rest := by
          rw [later, List.reverse_cons (a := first), List.append_assoc, List.singleton_append]

theorem exists_intercalate {α : Type} (separator first : List α) (parts : List (List α)) :
    ∃ after, separator.intercalate (first :: parts) = first ++ after := by
  cases parts with
  | nil => exact ⟨[], by rw [List.intercalate_singleton, List.append_nil]⟩
  | cons second parts => exact ⟨_, by rw [List.intercalate_cons_cons, List.append_assoc]⟩

/-- What two builders do alike with the first part of a container, they do with all of it. -/
theorem run_first {opened awaiting : Builder} {first : List Token}
    (same : ∀ rest, run opened (first ++ rest) = run awaiting (first ++ rest))
    (parts : List (List Token)) (rest : List Token) :
    run opened ([.comma].intercalate (first :: parts) ++ rest) =
      run awaiting ([.comma].intercalate (first :: parts) ++ rest) := by
  obtain ⟨after, starts⟩ := exists_intercalate [.comma] first parts
  rw [starts, List.append_assoc]
  exact same _

/-- The first item of an array stands where its end might stand. -/
theorem run_firstItem (item : Json) (outer : List Frame) (rest : List Token) :
    run ⟨.firstItem, outer⟩ (item.tokens ++ rest) =
      run ⟨.value, .array [] :: outer⟩ (item.tokens ++ rest) := by
  cases item <;> rfl

theorem reads_array {items : List Json} (each : ∀ item ∈ items, Reads item) :
    Reads (.array items) := by
  intro outer rest
  cases items with
  | nil => rfl
  | cons item items =>
    have comma (done : List Json) : (⟨.comma done, outer⟩ : Builder).step .comma =
      some ⟨.value, .array done :: outer⟩ := rfl
    have all := run_parts comma (fun part member done => each part member (.array done :: outer)) []
      (.closeArray :: rest)
    rw [tokens, itemTokens_eq_map, List.cons_append, List.append_assoc, List.singleton_append]
    calc run ⟨.value, outer⟩ (.openArray ::
          ([.comma].intercalate ((item :: items).map tokens) ++ .closeArray :: rest))
        = run ⟨.firstItem, outer⟩
            ([.comma].intercalate ((item :: items).map tokens) ++ .closeArray :: rest) :=
          run_step rfl _
      _ = run ⟨.value, .array [] :: outer⟩
            ([.comma].intercalate ((item :: items).map tokens) ++ .closeArray :: rest) :=
          run_first (run_firstItem item outer) _ _
      _ = run ⟨.comma ((item :: items).reverse ++ []), outer⟩ (.closeArray :: rest) := all
      _ = run (supply (.array ((item :: items).reverse ++ []).reverse) outer) rest := run_step rfl _
      _ = _ := by rw [List.append_nil, List.reverse_reverse]

theorem run_member {member : Option String × Json} (value : Reads member.2) (done : List Member)
    (outer : List Frame) (rest : List Token) :
    run ⟨.name done, outer⟩ (tokensOfMember member ++ rest) =
      run ⟨.commaMember (member :: done), outer⟩ rest :=
  (run_step rfl _).trans ((run_step rfl _).trans (value _ rest))

theorem reads_object {members : List (Option String × Json)}
    (each : ∀ member ∈ members, Reads member.2) : Reads (.object members) := by
  intro outer rest
  cases members with
  | nil => rfl
  | cons member members =>
    have comma (done : List Member) : (⟨.commaMember done, outer⟩ : Builder).step .comma =
      some ⟨.name done, outer⟩ := rfl
    have all := run_parts comma (fun part known done => run_member (each part known) done outer) []
      (.closeObject :: rest)
    have first (rest : List Token) : run ⟨.firstName, outer⟩ (tokensOfMember member ++ rest) =
      run ⟨.name [], outer⟩ (tokensOfMember member ++ rest) := rfl
    rw [tokens, memberTokens_eq_map, List.cons_append, List.append_assoc, List.singleton_append]
    calc run ⟨.value, outer⟩ (.openObject ::
          ([.comma].intercalate ((member :: members).map tokensOfMember) ++ .closeObject :: rest))
        = run ⟨.firstName, outer⟩
            ([.comma].intercalate ((member :: members).map tokensOfMember) ++ .closeObject :: rest) :=
          run_step rfl _
      _ = run ⟨.name [], outer⟩
            ([.comma].intercalate ((member :: members).map tokensOfMember) ++ .closeObject :: rest) :=
          run_first first _ _
      _ = run ⟨.commaMember ((member :: members).reverse ++ []), outer⟩ (.closeObject :: rest) := all
      _ = run (supply (.object ((member :: members).reverse ++ []).reverse) outer) rest :=
          run_step rfl _
      _ = _ := by rw [List.append_nil, List.reverse_reverse]

/-! ### Documents -/

mutual

theorem reads : (document : Json) → Reads document
  | .null | .bool _ | .number _ | .string _ => fun _ _ => run_step rfl _
  | .array items => reads_array (reads_items items)
  | .object members => reads_object (reads_members members)

theorem reads_items : (items : List Json) → ∀ item ∈ items, Reads item
  | [] => List.forall_mem_nil _
  | item :: items => List.forall_mem_cons.mpr ⟨reads item, reads_items items⟩

theorem reads_members : (members : List (Option String × Json)) → ∀ member ∈ members, Reads member.2
  | [] => List.forall_mem_nil _
  | (_, value) :: members => List.forall_mem_cons.mpr ⟨reads value, reads_members members⟩

end

end Builder

/-- **The tokens of a document spell it.** -/
theorem ofTokens?_tokens (document : Json) : ofTokens? document.tokens = some document := by
  have whole := Builder.reads document [] []
  rw [List.append_nil] at whole
  rw [ofTokens?, Builder.start, whole]
  rfl

/-! ### Scanning -/

/-- Octets are split into tokens, however much fuel is left. -/
def Scans (octets : Bytes) (tokens : List Token) : Prop :=
  ∀ fuel, octets.length ≤ fuel → scanWithin? fuel octets = some tokens

theorem scans_nil : Scans [] [] := by
  intro fuel _
  cases fuel <;> rfl

theorem Scans.blank {octet : UInt8} {rest : Bytes} {tokens : List Token} (scans : Scans rest tokens)
    (blank : isBlank octet = true) : Scans (octet :: rest) tokens := by
  intro fuel enough
  cases fuel with
  | zero => cases enough
  | succ fuel =>
    rw [← scans (fuel + 1) (by rw [List.length_cons] at enough; omega), scanWithin?, scanWithin?,
      List.dropWhile_cons_of_pos blank]

theorem Scans.token {octet : UInt8} {rest : Bytes} {token : Token} {tokens : List Token}
    (octets : Bytes) (scans : Scans rest tokens) (visible : isBlank octet = false)
    (read : token? (octet :: (octets ++ rest)) = some (token, rest)) :
    Scans (octet :: (octets ++ rest)) (token :: tokens) := by
  intro fuel enough
  cases fuel with
  | zero => cases enough
  | succ fuel =>
    have left : rest.length ≤ fuel := by
      rw [List.length_cons, List.length_append] at enough
      omega
    rw [scanWithin?, List.dropWhile_cons_of_neg (Bool.not_eq_true _ ▸ visible)]
    simp [read, scans fuel left]

/-- **A text spells tokens** wherever no octet of a number follows it. -/
def Writes (text : String) (tokens : List Token) : Prop :=
  ∀ ⦃rest tail⦄, EndsNumber rest → Scans rest tail → Scans (Bytes.ofText text ++ rest) (tokens ++ tail)

/-- A text spells tokens, whatever follows it, and ends a number in front of it. -/
structure Punctuates (text : String) (tokens : List Token) : Prop where
  ends : ∀ rest, EndsNumber (Bytes.ofText text ++ rest)
  scans : ∀ {rest tail}, Scans rest tail → Scans (Bytes.ofText text ++ rest) (tokens ++ tail)

theorem Punctuates.append {first second : String} {tokens others : List Token}
    (left : Punctuates first tokens) (right : Punctuates second others) :
    Punctuates (first ++ second) (tokens ++ others) where
  ends rest := by
    rw [Bytes.ofText_append, List.append_assoc]
    exact left.ends _
  scans scans := by
    rw [Bytes.ofText_append, List.append_assoc, List.append_assoc]
    exact left.scans (right.scans scans)

/-- A text in front of punctuation is punctuation behind it. -/
theorem Writes.between {opening text closing : String} {first tokens last : List Token}
    (opens : Punctuates opening first) (writes : Writes text tokens)
    (closes : Punctuates closing last) :
    Punctuates (opening ++ text ++ closing) (first ++ tokens ++ last) where
  ends rest := by
    rw [Bytes.ofText_append, Bytes.ofText_append, List.append_assoc, List.append_assoc]
    exact opens.ends _
  scans scans := by
    simp only [Bytes.ofText_append, List.append_assoc]
    exact opens.scans (writes (closes.ends _) (closes.scans scans))

theorem Punctuates.writes {text : String} {tokens : List Token} (punctuates : Punctuates text tokens) :
    Writes text tokens :=
  fun _ _ _ scans => punctuates.scans scans

theorem writes_intercalate {Part : Type} {separator : String} {written : Part → String}
    {spelled : Part → List Token} (separates : Punctuates separator [.comma]) {parts : List Part}
    (each : ∀ part ∈ parts, Writes (written part) (spelled part)) :
    Writes (separator.intercalate (parts.map written)) ([.comma].intercalate (parts.map spelled)) := by
  induction parts with
  | nil => exact fun _ _ _ scans => scans
  | cons part parts hypothesis =>
    have first := each part List.mem_cons_self
    have others := hypothesis fun other member => each other (List.mem_cons_of_mem _ member)
    cases parts with
    | nil => simpa only [List.map_cons, List.map_nil, String.intercalate_singleton,
        List.intercalate_singleton] using first
    | cons next parts =>
      intro rest tail ends scans
      simp only [List.map_cons, String.intercalate_cons_cons, List.intercalate_cons_cons,
        Bytes.ofText_append, List.append_assoc]
      exact first (separates.ends _) (separates.scans (others ends scans))

/-! ### Punctuation -/

theorem punctuates_octet {text : String} {octet : UInt8} {token : Token}
    (written : Bytes.ofText text = [octet]) (visible : isBlank octet = false)
    (other : isDigit octet = false ∧ octet ≠ 0x2e ∧ octet ≠ 0x65 ∧ octet ≠ 0x45)
    (read : ∀ rest, token? (octet :: rest) = some (token, rest)) : Punctuates text [token] where
  ends rest := by
    rw [written]
    rintro _ ⟨rfl⟩
    exact other
  scans scans := by
    rw [written]
    exact scans.token [] visible (read _)

theorem punctuates_openArray : Punctuates "[" [.openArray] :=
  punctuates_octet rfl rfl (by decide) fun _ => rfl

theorem punctuates_closeArray : Punctuates "]" [.closeArray] :=
  punctuates_octet rfl rfl (by decide) fun _ => rfl

theorem punctuates_openObject : Punctuates openBrace [.openObject] :=
  punctuates_octet rfl rfl (by decide) fun _ => rfl

theorem punctuates_closeObject : Punctuates closeBrace [.closeObject] :=
  punctuates_octet rfl rfl (by decide) fun _ => rfl

theorem punctuates_comma : Punctuates "," [.comma] :=
  punctuates_octet rfl rfl (by decide) fun _ => rfl

theorem punctuates_colon : Punctuates ":" [.colon] :=
  punctuates_octet rfl rfl (by decide) fun _ => rfl

theorem scans_blanks {octets rest : Bytes} {tokens : List Token}
    (blank : ∀ octet ∈ octets, isBlank octet = true) (scans : Scans rest tokens) :
    Scans (octets ++ rest) tokens := by
  induction octets with
  | nil => exact scans
  | cons octet octets hypothesis =>
    exact (hypothesis fun other member => blank other (List.mem_cons_of_mem _ member)).blank
      (blank octet List.mem_cons_self)

theorem punctuates_blanks {text : String} (octet : UInt8) (octets : Bytes)
    (written : Bytes.ofText text = octet :: octets)
    (blank : ∀ other ∈ octet :: octets, isBlank other = true) : Punctuates text [] where
  ends rest := by
    rw [written]
    rintro _ ⟨rfl⟩
    have first := blank octet List.mem_cons_self
    simp only [isBlank, Bool.or_eq_true, beq_iff_eq] at first
    obtain ((rfl | rfl) | rfl) | rfl := first <;> decide
  scans scans := by
    rw [written]
    exact scans_blanks blank scans

theorem punctuates_newline (level : Nat) : Punctuates (newline level) [] := by
  have spaces : ∀ char ∈ List.replicate (2 * level) ' ', char.toNat < 128 := by
    rintro _ member
    rw [List.eq_of_mem_replicate member]
    decide
  refine punctuates_blanks 0x0a (List.replicate (2 * level) 0x20) ?_ ?_
  · rw [newline, Bytes.ofText_append, Bytes.ofText_ofList, Bytes.ofText_ofList,
      Bytes.ofChars_ascii spaces, List.map_replicate]
    rfl
  · refine List.forall_mem_cons.mpr ⟨rfl, fun octet member => ?_⟩
    rw [List.eq_of_mem_replicate member]
    rfl

/-! ### Scalars -/

theorem writes_octets {text : String} (octet : UInt8) (octets : Bytes) {token : Token}
    (written : Bytes.ofText text = octet :: octets) (visible : isBlank octet = false)
    (read : ∀ rest, EndsNumber rest → token? (octet :: (octets ++ rest)) = some (token, rest)) :
    Writes text [token] := by
  intro rest tail ends scans
  rw [written]
  exact scans.token octets visible (read rest ends)

theorem writes_null : Writes "null" [.scalar .null] :=
  writes_octets 0x6e [0x75, 0x6c, 0x6c] rfl rfl fun _ _ => rfl

theorem writes_true : Writes "true" [.scalar (.bool true)] :=
  writes_octets 0x74 [0x72, 0x75, 0x65] rfl rfl fun _ _ => rfl

theorem writes_false : Writes "false" [.scalar (.bool false)] :=
  writes_octets 0x66 [0x61, 0x6c, 0x73, 0x65] rfl rfl fun _ _ => rfl

theorem writes_quoted (text : String) : Writes (quoted text) [.scalar (.string (some text))] := by
  refine writes_octets 0x22 _ (ofText_quoted text) rfl fun rest _ => ?_
  rw [← List.cons_append, ← ofText_quoted]
  exact token?_quoted text rest

theorem writes_int (value : Int) : Writes (toString value) [.scalar (.int value)] := by
  obtain ⟨octet, octets, written, numeric⟩ := exists_octets_int value
  have visible : isBlank octet = false := by
    rw [Bool.eq_false_iff]
    intro blank
    simp only [isBlank, Bool.or_eq_true, beq_iff_eq] at blank
    obtain ((rfl | rfl) | rfl) | rfl := blank <;> revert numeric <;> decide
  refine writes_octets octet octets written visible fun rest ends => ?_
  rw [← List.cons_append, ← written]
  exact token?_int value ends

/-! ### Containers -/

/-- A document that can be read back: its numbers are integers and its strings denote texts. -/
inductive Writable : Json → Prop
  | null : Writable .null
  | bool (value : Bool) : Writable (.bool value)
  | int (value : Int) : Writable (.int value)
  | text (value : String) : Writable (.text value)
  | array {items : List Json} (each : ∀ item ∈ items, Writable item) : Writable (.array items)
  | ofMembers {members : List (String × Json)} (each : ∀ member ∈ members, Writable member.2) :
      Writable (.ofMembers members)

theorem ofMembers_eq (members : List (String × Json)) :
    ofMembers members = .object (members.map named) := rfl

theorem compactItems_eq_map (items : List Json) : compactItems items = items.map compact := by
  induction items with
  | nil => rfl
  | cons item items hypothesis => rw [compactItems, hypothesis, List.map_cons]

theorem compactMembers_named (members : List (String × Json)) :
    compactMembers (members.map named) =
      members.map fun member => quoted member.1 ++ ":" ++ member.2.compact := by
  induction members with
  | nil => rfl
  | cons member members hypothesis =>
    rw [List.map_cons, named, compactMembers, hypothesis, List.map_cons, Option.getD_some]

theorem writes_member {separator text : String} {tokens : List Token} (name : String)
    (separates : Punctuates separator [.colon]) (writes : Writes text tokens) :
    Writes (quoted name ++ separator ++ text) (.scalar (.string (some name)) :: .colon :: tokens) := by
  intro rest tail ends scans
  rw [Bytes.ofText_append, Bytes.ofText_append, List.append_assoc, List.append_assoc]
  exact writes_quoted name (separates.ends _) (separates.scans (writes ends scans))

/-- **The text without blanks spells the document's tokens.** -/
theorem writes_compact {document : Json} (writable : Writable document) :
    Writes document.compact document.tokens := by
  induction writable with
  | null => exact writes_null
  | bool value =>
    cases value with
    | true => exact writes_true
    | false => exact writes_false
  | int value => exact writes_int value
  | text value => exact writes_quoted value
  | array each hypothesis =>
    rw [compact, tokens, compactItems_eq_map, itemTokens_eq_map]
    exact (Writes.between punctuates_openArray (writes_intercalate punctuates_comma hypothesis)
      punctuates_closeArray).writes
  | @ofMembers members each hypothesis =>
    have parts : ∀ member ∈ members, Writes (quoted member.1 ++ ":" ++ member.2.compact)
        (tokensOfMember (named member)) :=
      fun member known => writes_member member.1 punctuates_colon (hypothesis member known)
    rw [ofMembers_eq, compact, tokens, compactMembers_named, memberTokens_eq_map, List.map_map]
    exact (Writes.between punctuates_openObject (writes_intercalate punctuates_comma parts)
      punctuates_closeObject).writes

/-! ### Indented documents -/

theorem prettyItems_eq_map (level : Nat) (items : List Json) :
    prettyItems level items = items.map (prettyAt (level + 1)) := by
  induction items with
  | nil => rfl
  | cons item items hypothesis => rw [prettyItems, hypothesis, List.map_cons]

theorem prettyMembers_named (level : Nat) (members : List (String × Json)) :
    prettyMembers level (members.map named) =
      members.map fun member => quoted member.1 ++ ": " ++ member.2.prettyAt (level + 1) := by
  induction members with
  | nil => rfl
  | cons member members hypothesis =>
    rw [List.map_cons, named, prettyMembers, hypothesis, List.map_cons, Option.getD_some]

theorem punctuates_spacedColon : Punctuates ": " [.colon] := by
  have space : Punctuates " " [] :=
    punctuates_blanks 0x20 [] rfl (List.forall_mem_singleton.mpr rfl)
  exact punctuates_colon.append space

/-- Parts on lines of their own spell the same tokens as without blanks. -/
theorem writes_block {Part : Type} {opening closing : String} {first last : Token}
    {written : Part → String} {spelled : Part → List Token} (level : Nat)
    (opens : Punctuates opening [first]) (closes : Punctuates closing [last]) {parts : List Part}
    (each : ∀ part ∈ parts, Writes (written part) (spelled part)) :
    Writes (block level opening closing (parts.map written))
      (first :: ([.comma].intercalate (parts.map spelled) ++ [last])) := by
  have broken (level : Nat) : Punctuates ("," ++ newline level) [.comma] :=
    punctuates_comma.append (punctuates_newline level)
  cases parts with
  | nil => exact (opens.append closes).writes
  | cons part parts =>
    have inside := Writes.between (opens.append (punctuates_newline (level + 1)))
      (writes_intercalate (broken (level + 1)) each) ((punctuates_newline level).append closes)
    rw [block, List.map_cons, List.isEmpty_cons, if_neg Bool.false_ne_true]
    simpa only [List.map_cons, List.append_nil, List.nil_append, List.singleton_append,
      List.cons_append, String.append_assoc] using inside.writes

/-- **The indented text spells the document's tokens.** -/
theorem writes_prettyAt {document : Json} (writable : Writable document) (level : Nat) :
    Writes (document.prettyAt level) document.tokens := by
  induction writable generalizing level with
  | null => exact writes_compact .null
  | bool value => exact writes_compact (.bool value)
  | int value => exact writes_compact (.int value)
  | text value => exact writes_compact (.text value)
  | array each hypothesis =>
    rw [prettyAt, tokens, prettyItems_eq_map, itemTokens_eq_map]
    exact writes_block level punctuates_openArray punctuates_closeArray
      fun item member => hypothesis item member (level + 1)
  | @ofMembers members each hypothesis =>
    rw [ofMembers_eq, prettyAt, tokens, prettyMembers_named, memberTokens_eq_map, List.map_map]
    exact writes_block level punctuates_openObject punctuates_closeObject fun member known =>
      writes_member member.1 punctuates_spacedColon (hypothesis member known (level + 1))

/-! ### Reading back -/

theorem Writes.ofText?_eq_some {text : String} {document : Json} (writes : Writes text document.tokens) :
    ofText? text = some document := by
  have scanned := writes (by rintro _ ⟨⟩) scans_nil _ (Nat.le_refl _)
  rw [List.append_nil, List.append_nil] at scanned
  rw [Json.ofText?, read?, scan?, scanned]
  exact ofTokens?_tokens document

/-- **A document is read back from its text without blanks.** -/
theorem ofText?_compact {document : Json} (writable : Writable document) :
    ofText? document.compact = some document :=
  (writes_compact writable).ofText?_eq_some

/-- **A document is read back from its indented text.** -/
theorem ofText?_pretty {document : Json} (writable : Writable document) :
    ofText? document.pretty = some document :=
  (writes_prettyAt writable 0).ofText?_eq_some

/-- A document is read back from a line with its indented text. -/
theorem ofText?_line {document : Json} (writable : Writable document) :
    ofText? (document.pretty ++ "\n") = some document := by
  have ending : Punctuates "\n" [] :=
    punctuates_blanks 0x0a [] rfl (List.forall_mem_singleton.mpr rfl)
  have writes : Writes (document.pretty ++ "\n") document.tokens := by
    intro rest tail ends scans
    rw [Bytes.ofText_append, List.append_assoc]
    exact writes_prettyAt writable 0 (ending.ends rest) (ending.scans scans)
  exact writes.ofText?_eq_some

/-! ### Values -/

variable {α : Type}

theorem writable_texts (values : List String) : Writable (.texts values) := by
  refine .array (List.forall_mem_map.mpr fun value _ => ?_)
  exact .text value

theorem writable_present {columns : List (String × Option Json)}
    (each : ∀ column ∈ columns, ∀ value ∈ column.2, Writable value) :
    Writable (.ofMembers (present columns)) := by
  refine .ofMembers fun member known => ?_
  obtain ⟨column, isColumn, held⟩ := List.mem_filterMap.mp known
  obtain ⟨value, same, rfl⟩ := Option.map_eq_some_iff.mp held
  exact each column isColumn value same

/-- **A kind of values loses nothing in documents**: a document that is written of a value has
texts, and it reads as the value if that is `Storable`, which every value is that was read. -/
structure Lossless (read : Json → Option α) (write : α → Json) (Storable : α → Prop) : Prop where
  writable : ∀ value, Writable (write value)
  read_write : ∀ value, Storable value → read (write value) = some value
  storable : ∀ document value, read document = some value → Storable value

end ClientAssertion.Json
