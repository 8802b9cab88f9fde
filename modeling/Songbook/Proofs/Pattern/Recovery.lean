import Songbook.Proofs.Pattern.Written

/-!
# Reading on after malformed tag expressions

A complete tag expression shields what stands before it: whatever follows, and however malformed it
is, the nodes read so far stay as they are, and the rest is read as if it stood alone. Only the
place of a dangling escape moves, by the length of what is in front.

A tag expression that comes to nothing costs the text up to the next `<` and no more.
-/

namespace Songbook.Pattern

/-! ## Tokens of a text in front of another one -/

theorem glyphs?_append {text : List Char} {glyphs : List Glyph}
    (htext : glyphs? text = some glyphs) (rest : List Char) :
    glyphs? (text ++ rest) = (glyphs? rest).map (glyphs ++ ·) := by
  induction text using escape_induction generalizing glyphs with
  | nil =>
      cases htext
      simp
  | lone => simp [glyphs?] at htext
  | escaped c text ih =>
      rw [glyphs?_backslash, Option.map_eq_some_iff] at htext
      obtain ⟨more, hmore, rfl⟩ := htext
      rw [List.cons_append, List.cons_append, glyphs?_backslash, ih hmore, Option.map_map]
      rfl
  | plain c text hc ih =>
      rw [glyphs?_cons hc, Option.map_eq_some_iff] at htext
      obtain ⟨more, hmore, rfl⟩ := htext
      rw [List.cons_append, glyphs?_cons hc, ih hmore, Option.map_map]
      rfl

theorem glyphs?_blanks {blanks : List Char} (hblanks : ∀ c ∈ blanks, Text.isBlank c = true) :
    glyphs? blanks = some (blanks.map .literal) := by
  have hplain : ∀ c ∈ blanks, isSpecial c = false := fun c hc =>
    Text.contains_of_isBlank (hblanks c hc) (by decide)
  simpa [glyphs?] using glyphs?_plain_append hplain []

/-- The tokens of glyphs consist of these glyphs. -/
theorem flatMap_glyphs_tokensOfGlyphs (glyphs : List Glyph) :
    (tokensOfGlyphs glyphs).flatMap Token.glyphs = glyphs := by
  induction glyphs with
  | nil => rfl
  | cons glyph rest ih =>
      cases glyph with
      | literal c =>
          rw [tokensOfGlyphs]
          split
          next literal more heq =>
            rw [heq] at ih
            rw [← ih]
            rfl
          next =>
            rw [List.flatMap_cons, ih]
            rfl
      | opening | closing | bar => exact congrArg (_ :: ·) ih

/-- No two texts among the tokens of glyphs stand side by side. -/
theorem isChain_tokensOfGlyphs (glyphs : List Glyph) :
    (tokensOfGlyphs glyphs).IsChain Token.Separate := by
  induction glyphs with
  | nil => exact List.isChain_singleton _
  | cons glyph rest ih =>
      cases glyph with
      | literal c =>
          rw [tokensOfGlyphs]
          split
          next literal more heq =>
            rw [heq, List.isChain_cons] at ih
            refine List.isChain_cons.mpr ⟨?_, ih.2⟩
            intro next hnext _ _
            exact ih.1 next hnext literal rfl
          next hnext =>
            refine List.isChain_cons.mpr ⟨?_, ih⟩
            rintro _ hhead _ _ next rfl
            exact hnext next _ (List.eq_cons_of_mem_head? hhead)
      | opening | closing | bar => exact (isChain_cons_of_delimiter (by simp)).mpr ih

theorem tokenize_of_unblank {source : String}
    (hstart : ∀ c ∈ source.toList.head?, Text.isBlank c = false) :
    tokenize source = match glyphs? (Text.trimEnd source.toList) with
      | some glyphs => .ok (tokensOfGlyphs glyphs)
      | none => .error (Text.byteLength (Text.trimEnd source.toList) - 1) := by
  cases hread : glyphs? (Text.trimEnd source.toList) <;>
    simp [tokenize, Text.trimStart_of_unblank hstart, hread]

/-! ## Reading on after a sequence -/

/-- What follows a sequence: nothing at the end of the pattern, and what is read after any other
token. -/
def readOn (read : List Token → List Node) : List Token → List Node
  | [] => []
  | .endOfPattern :: _ => []
  | _ :: rest => read rest

theorem sequences_succ (rounds : Nat) (tokens : List Token) :
    sequences (rounds + 1) tokens =
      (sequence maxDepth tokens).1 ++ readOn (sequences rounds) (sequence maxDepth tokens).2 := by
  rcases hread : sequence maxDepth tokens with ⟨children, rest⟩
  rw [sequences, hread]
  cases rest with
  | nil => simp [readOn]
  | cons token rest => cases token <;> simp [readOn]

/-- Readers that agree on shorter texts read on alike. -/
theorem readOn_congr {read other : List Token → List Node} {tokens : List Token}
    (hread : ∀ rest, rest.length < tokens.length → read rest = other rest) :
    readOn read tokens = readOn other tokens := by
  cases tokens with
  | nil => rfl
  | cons token rest =>
      have hrest := hread rest (Nat.lt_succ_self _)
      cases token with
      | endOfPattern => rfl
      | text | opening | closing | bar => exact hrest

/-- More rounds than there are tokens change nothing. -/
theorem sequences_rounds {rounds more : Nat} {tokens : List Token}
    (hrounds : tokens.length ≤ rounds) (hmore : tokens.length ≤ more) :
    sequences rounds tokens = sequences more tokens := by
  induction rounds generalizing more tokens with
  | zero =>
      cases List.length_eq_zero_iff.mp (Nat.le_zero.mp hrounds)
      cases more <;> rfl
  | succ rounds ih =>
      cases more with
      | zero =>
          cases List.length_eq_zero_iff.mp (Nat.le_zero.mp hmore)
          rfl
      | succ more =>
          have hshrinks := sequence_shrinks maxDepth tokens
          rw [sequences_succ, sequences_succ]
          congr 1
          refine readOn_congr fun rest hrest => ih ?_ ?_ <;> omega

theorem ofTokens_eq (tokens : List Token) :
    ofTokens tokens =
      (sequence maxDepth tokens).1 ++ readOn ofTokens (sequence maxDepth tokens).2 := by
  have hshrinks := sequence_shrinks maxDepth tokens
  rw [ofTokens, sequences_rounds (Nat.le_refl _) (Nat.le_succ _), sequences_succ]
  congr 1
  refine readOn_congr fun rest hrest => sequences_rounds ?_ (Nat.le_refl _)
  omega

/-- The tokens of a sequence are read in front of any others, well formed or not. -/
theorem ofTokens_tokensOfAll_append {nodes : List Node} (hproper : Proper maxDepth nodes)
    (following : List Token) :
    ofTokens (tokensOfAll nodes ++ following) = nodes ++ ofTokens following := by
  rw [ofTokens_eq, sequence_tokensOfAll_append hproper, ofTokens_eq following, List.append_assoc]

/-! ## Complete patterns in front of any text -/

/-- A sequence whose last node is a tag expression. -/
def EndsInExpression (nodes : List Node) : Prop :=
  ∃ node ∈ nodes.getLast?, ∀ text, node ≠ .literal text

theorem exists_tokensOfAll_closing {nodes : List Node} (hends : EndsInExpression nodes) :
    ∃ tokens, tokensOfAll nodes = tokens ++ [.closing] := by
  obtain ⟨last, hlast, hexpression⟩ := hends
  induction nodes with
  | nil => cases hlast
  | cons node rest ih =>
      cases rest with
      | nil =>
          cases hlast
          rw [tokensOfAll, tokensOfAll, List.append_nil]
          cases node with
          | literal text => exact absurd rfl (hexpression text)
          | tag name => exact ⟨[_, _], rfl⟩
          | conditional name yes no =>
              refine ⟨.opening :: .text name.toList :: .bar ::
                (tokensOfAll yes ++ tokensOfElse no), ?_⟩
              simp [tokensOfNode]
      | cons next rest =>
          obtain ⟨tokens, htokens⟩ := ih hlast
          exact ⟨tokensOfNode node ++ tokens, by rw [tokensOfAll, htokens, List.append_assoc]⟩

/-- What a text reads as behind one that reads as these nodes, given what it reads as alone. -/
def readBehind (front : String) (nodes : List Node) :
    Except Nat (List Node) → Except Nat (List Node)
  | .ok more => .ok (nodes ++ more)
  | .error position => .error (Text.byteLength front.toList + position)

theorem readBehind_readBehind (front middle : String) (nodes : List Node)
    (read : Except Nat (List Node)) :
    readBehind front nodes (readBehind middle [] read) =
      readBehind (front ++ middle) nodes read := by
  cases read with
  | ok more => rfl
  | error position =>
      simp [readBehind, Text.byteLength_append, Nat.add_assoc]

theorem parse_of_unblank {source : String}
    (hstart : ∀ c ∈ source.toList.head?, Text.isBlank c = false) :
    parse source = match glyphs? (Text.trimEnd source.toList) with
      | some glyphs => .ok (ofTokens (tokensOfGlyphs glyphs))
      | none => .error (Text.byteLength (Text.trimEnd source.toList) - 1) := by
  rw [parse, tokenize_of_unblank hstart]
  cases glyphs? (Text.trimEnd source.toList) <;> rfl

/-- The place of a dangling escape moves by what is put in front. -/
theorem byteLength_append_sub_one {text : List Char} (htext : glyphs? text = none)
    (front : List Char) :
    Text.byteLength (front ++ text) - 1 = Text.byteLength front + (Text.byteLength text - 1) := by
  have hne : text ≠ [] := by
    rintro rfl
    cases htext
  have hpos := Text.byteLength_pos hne
  rw [Text.byteLength_append]
  omega

/-- A text after a complete tag expression is read as it is alone. -/
theorem parse_write_followed {nodes : List Node} (hnormal : NormalForm nodes)
    (hends : EndsInExpression nodes)
    (hstart : ∀ c ∈ (write nodes).toList.head?, Text.isBlank c = false) {rest : String}
    (hrest : ∀ c ∈ rest.toList.head?, Text.isBlank c = false) :
    parse (write nodes ++ rest) = readBehind (write nodes) nodes (parse rest) := by
  obtain ⟨front, hfront⟩ := exists_tokensOfAll_closing hends
  have hwritten : (write nodes).toList = front.flatMap Token.write ++ ['>'] := by
    rw [write, String.toList_ofList, writeAll_eq_flatMap, hfront]
    simp [Token.write]
  have hwhole : ∀ c ∈ (write nodes ++ rest).toList.head?, Text.isBlank c = false := by
    rw [String.toList_append]
    rw [hwritten] at hstart ⊢
    intro c hc
    apply hstart
    cases hfirst : front.flatMap Token.write with
    | nil => simpa [hfirst] using hc
    | cons first more => simpa [hfirst] using hc
  have hbody : Text.trimEnd (write nodes ++ rest).toList =
      (write nodes).toList ++ Text.trimEnd rest.toList := by
    rw [String.toList_append, hwritten, List.append_assoc, List.singleton_append,
      Text.trimEnd_append_of_last (by decide)]
    simp
  have hglyphs : glyphs? ((write nodes).toList ++ Text.trimEnd rest.toList) =
      (glyphs? (Text.trimEnd rest.toList)).map ((tokensOfAll nodes).flatMap Token.glyphs ++ ·) := by
    rw [write, String.toList_ofList, writeAll_eq_flatMap, glyphs?_flatMap_write]
  rw [parse_of_unblank hwhole, parse_of_unblank hrest, hbody, hglyphs]
  cases hread : glyphs? (Text.trimEnd rest.toList) with
  | none => exact congrArg Except.error (byteLength_append_sub_one hread _)
  | some glyphs =>
      have hchain : (tokensOfAll nodes ++ tokensOfGlyphs glyphs).IsChain Token.Separate := by
        have hinner := isChain_tokensOfAll_append hnormal.apart
          (List.isChain_singleton Token.endOfPattern) (by simp)
        refine List.isChain_append.mpr
          ⟨(List.isChain_append.mp hinner).1, isChain_tokensOfGlyphs glyphs, ?_⟩
        -- the last token is a bracket, and only texts run into each other
        rw [hfront]
        intro token htoken next _ literal heq
        simp [heq] at htoken
      simp only [Option.map_some, readBehind, ofTokens_tokensOfAll_append hnormal.proper,
        tokensOfGlyphs_flatMap glyphs (isWritten_of_proper hnormal.proper) hchain]

/-! ## Tag expressions that come to nothing -/

/-- Tokens after a `<` that make no tag expression: none of them opens another one, and the first of
them is a delimiter if any is. -/
structure Unfinished (tokens : List Token) : Prop where
  unopened : .opening ∉ tokens
  unnamed : .closing ∈ tokens ∨ .bar ∈ tokens →
    tokens.head? = some .closing ∨ tokens.head? = some .bar

/-- Glyphs after a `<` that make no tag expression: a name that nothing closes, or no name. -/
inductive NoExpression : List Glyph → Prop
  | name (text : List Char) : NoExpression (text.map .literal)
  | closing {rest} (hrest : .opening ∉ rest) : NoExpression (.closing :: rest)
  | bar {rest} (hrest : .opening ∉ rest) : NoExpression (.bar :: rest)

theorem NoExpression.append_literals {glyphs : List Glyph} (hglyphs : NoExpression glyphs)
    (text : List Char) : NoExpression (glyphs ++ text.map .literal) := by
  have hliterals : .opening ∉ text.map Glyph.literal := by simp
  cases hglyphs with
  | name first =>
      rw [← List.map_append]
      exact .name _
  | closing hrest => exact .closing (by simp [hrest])
  | bar hrest => exact .bar (by simp [hrest])

/-- Every glyph is part of a token. -/
theorem exists_token_of_mem {glyph : Glyph} {glyphs : List Glyph} (hmem : glyph ∈ glyphs) :
    ∃ token ∈ tokensOfGlyphs glyphs, glyph ∈ token.glyphs := by
  rw [← flatMap_glyphs_tokensOfGlyphs glyphs] at hmem
  exact List.mem_flatMap.mp hmem

theorem opening_mem_tokensOfGlyphs {glyphs : List Glyph} (hmem : .opening ∈ glyphs) :
    .opening ∈ tokensOfGlyphs glyphs := by
  obtain ⟨token, htoken, hglyph⟩ := exists_token_of_mem hmem
  cases token with
  | opening => exact htoken
  | text | closing | bar | endOfPattern => simp [Token.glyphs] at hglyph

theorem exists_literals {glyphs : List Glyph}
    (hliteral : ∀ glyph ∈ glyphs, ∃ c, glyph = .literal c) :
    ∃ text : List Char, glyphs = text.map .literal := by
  induction glyphs with
  | nil => exact ⟨[], rfl⟩
  | cons glyph glyphs ih =>
      rw [List.forall_mem_cons] at hliteral
      obtain ⟨c, rfl⟩ := hliteral.1
      obtain ⟨text, rfl⟩ := ih hliteral.2
      exact ⟨c :: text, rfl⟩

theorem Unfinished.noExpression {glyphs : List Glyph}
    (hunfinished : Unfinished (tokensOfGlyphs glyphs)) : NoExpression glyphs := by
  have hopening : .opening ∉ glyphs := fun hmem =>
    hunfinished.unopened (opening_mem_tokensOfGlyphs hmem)
  cases glyphs with
  | nil => exact .name []
  | cons glyph rest =>
      have hrest : .opening ∉ rest := fun hmem => hopening (List.mem_cons_of_mem _ hmem)
      cases glyph with
      | opening => exact absurd List.mem_cons_self hopening
      | closing => exact .closing hrest
      | bar => exact .bar hrest
      | literal c =>
          have hhead : ∃ literal, (tokensOfGlyphs (.literal c :: rest)).head? =
              some (.text literal) := by
            rw [tokensOfGlyphs]
            split <;> exact ⟨_, rfl⟩
          obtain ⟨literal, hhead⟩ := hhead
          -- the first token is a text, so there is no delimiter among the tokens at all
          have hnone : ¬(.closing ∈ tokensOfGlyphs (.literal c :: rest) ∨
              .bar ∈ tokensOfGlyphs (.literal c :: rest)) := by
            intro hdelimiter
            have hfirst := hunfinished.unnamed hdelimiter
            simp [hhead] at hfirst
          rw [not_or] at hnone
          have hliteral : ∀ glyph ∈ Glyph.literal c :: rest, ∃ c, glyph = .literal c := by
            intro glyph hmem
            obtain ⟨token, htoken, hglyph⟩ := exists_token_of_mem hmem
            cases token with
            | text literal =>
                obtain ⟨next, _, rfl⟩ := List.mem_map.mp hglyph
                exact ⟨next, rfl⟩
            | opening => exact absurd htoken hunfinished.unopened
            | closing => exact absurd htoken hnone.1
            | bar => exact absurd htoken hnone.2
            | endOfPattern => cases hglyph
          obtain ⟨text, htext⟩ := exists_literals hliteral
          rw [htext]
          exact .name text

theorem resync_tokensOfGlyphs {glyphs : List Glyph} (hopening : .opening ∉ glyphs)
    (rest : List Glyph) :
    resync (tokensOfGlyphs (glyphs ++ .opening :: rest)) = .opening :: tokensOfGlyphs rest := by
  induction glyphs with
  | nil => rfl
  | cons glyph glyphs ih =>
      rw [List.mem_cons, not_or] at hopening
      rw [List.cons_append]
      cases glyph with
      | literal c =>
          -- a literal becomes part of a text, which is skipped whether or not it was there before
          rw [tokensOfGlyphs]
          split
          next literal more heq =>
            rw [← ih hopening.2, heq]
            rfl
          next => exact ih hopening.2
      | opening => exact absurd rfl hopening.1
      | closing | bar => exact ih hopening.2

/-- Without a tag expression reading goes on at the next `<`, however deeply nested. -/
theorem expression_of_noExpression (branch? : Option Branch) {glyphs : List Glyph}
    (hglyphs : NoExpression glyphs) (rest : List Glyph) :
    expression branch? (tokensOfGlyphs (glyphs ++ .opening :: rest)) =
      (none, .opening :: tokensOfGlyphs rest) := by
  cases hglyphs with
  | name text =>
      by_cases htext : text = []
      · subst htext
        cases branch? <;> rfl
      · rw [tokensOfGlyphs_literal htext (by simp [tokensOfGlyphs])]
        cases branch? <;> rfl
  | closing hrest | bar hrest =>
      have hresync := resync_tokensOfGlyphs hrest rest
      cases branch? <;> exact congrArg (Prod.mk none) hresync

theorem ofTokens_noExpression {glyphs : List Glyph} (hglyphs : NoExpression glyphs)
    (rest : List Glyph) :
    ofTokens (tokensOfGlyphs (.opening :: (glyphs ++ .opening :: rest))) =
      ofTokens (tokensOfGlyphs (.opening :: rest)) := by
  have hsequence : sequence maxDepth (tokensOfGlyphs (.opening :: (glyphs ++ .opening :: rest))) =
      sequence maxDepth (tokensOfGlyphs (.opening :: rest)) := by
    rw [tokensOfGlyphs, sequence_opening, expression_of_noExpression _ hglyphs]
    rfl
  rw [ofTokens_eq, hsequence, ← ofTokens_eq]

theorem isBlank_of_head?_opening {text : List Char} (hhead : text.head? = some '<') :
    ∀ c ∈ text.head?, Text.isBlank c = false := by
  intro c hc
  rw [hhead] at hc
  cases hc
  decide

theorem head?_opening_append (junk rest : String) :
    ("<" ++ junk ++ rest).toList.head? = some '<' := by
  rw [String.toList_append, String.toList_append]
  rfl

/-- A `<` with a text that makes no tag expression of it is lost up to the next `<`. -/
theorem parse_unfinished_followed {junk rest : String} {tokens : List Token}
    (hjunk : ∀ c ∈ junk.toList.head?, Text.isBlank c = false)
    (htokens : tokenize junk = .ok tokens) (hunfinished : Unfinished tokens)
    (hrest : rest.toList.head? = some '<') :
    parse ("<" ++ junk ++ rest) = readBehind ("<" ++ junk) [] (parse rest) := by
  obtain ⟨blanks, hblanks, hblank⟩ := Text.exists_blanks junk.toList
  obtain ⟨more, hmore⟩ := List.head?_eq_some_iff.mp hrest
  -- the glyphs of the junk, with the blanks at its end that count only inside a pattern
  have hglyphs : ∃ glyphs, glyphs? junk.toList = some glyphs ∧ NoExpression glyphs := by
    rw [tokenize_of_unblank hjunk] at htokens
    cases hread : glyphs? (Text.trimEnd junk.toList) with
    | none => simp [hread] at htokens
    | some glyphs =>
        simp only [hread, Except.ok.injEq] at htokens
        subst htokens
        refine ⟨glyphs ++ blanks.map .literal, ?_, hunfinished.noExpression.append_literals blanks⟩
        rw [hblanks, glyphs?_append hread, glyphs?_blanks hblank]
        rfl
  obtain ⟨glyphs, hread, hnone⟩ := hglyphs
  have htrim : Text.trimEnd rest.toList = '<' :: Text.trimEnd more := by
    rw [hmore]
    exact Text.trimEnd_append_of_last (by decide) [] more
  have hbody : Text.trimEnd ("<" ++ junk ++ rest).toList =
      ("<" ++ junk).toList ++ Text.trimEnd rest.toList := by
    rw [String.toList_append, hmore, Text.trimEnd_append_of_last (by decide), ← hmore, htrim]
  have hstart := isBlank_of_head?_opening (head?_opening_append junk rest)
  have hafter : glyphs? (Text.trimEnd rest.toList) =
      (glyphs? (Text.trimEnd more)).map (Glyph.opening :: ·) := by
    rw [htrim, glyphs?_cons (by decide)]
    rfl
  have hwhole : glyphs? (("<" ++ junk).toList ++ Text.trimEnd rest.toList) =
      (glyphs? (Text.trimEnd rest.toList)).map fun after => Glyph.opening :: (glyphs ++ after) := by
    rw [String.toList_append, List.append_assoc]
    change glyphs? ('<' :: (junk.toList ++ Text.trimEnd rest.toList)) = _
    rw [glyphs?_cons (by decide), glyphs?_append hread, Option.map_map]
    rfl
  rw [parse_of_unblank hstart, parse_of_unblank (isBlank_of_head?_opening hrest), hbody, hwhole]
  cases hmoreRead : glyphs? (Text.trimEnd more) with
  | none =>
      have hfails : glyphs? (Text.trimEnd rest.toList) = none := by rw [hafter, hmoreRead]; rfl
      simp only [hfails, Option.map_none, readBehind]
      rw [byteLength_append_sub_one hfails]
  | some after =>
      rw [hafter, hmoreRead]
      exact congrArg Except.ok (ofTokens_noExpression hnone after)

/-- A complete tag expression is never lost: what follows is read as it is alone, behind the nodes
of the written tree, and if that ends in a dangling escape, its place is counted on. If a tag
expression that comes to nothing stands between, it costs the text up to the next `<`. -/
theorem parse_write_append {nodes : List Node} (hnormal : NormalForm nodes)
    (hends : EndsInExpression nodes)
    (hstart : ∀ c ∈ (write nodes).toList.head?, Text.isBlank c = false) :
    (∀ rest : String, (∀ c ∈ rest.toList.head?, Text.isBlank c = false) →
      parse (write nodes ++ rest) = readBehind (write nodes) nodes (parse rest)) ∧
    (∀ (junk : String) (tokens : List Token), (∀ c ∈ junk.toList.head?, Text.isBlank c = false) →
      tokenize junk = .ok tokens → Unfinished tokens →
      ∀ rest : String, rest.toList.head? = some '<' →
        parse (write nodes ++ "<" ++ junk ++ rest) =
          readBehind (write nodes ++ "<" ++ junk) nodes (parse rest)) := by
  refine ⟨fun rest => parse_write_followed hnormal hends hstart, ?_⟩
  intro junk tokens hjunk htokens hunfinished rest hrest
  have hnext := isBlank_of_head?_opening (head?_opening_append junk rest)
  have hread := parse_write_followed hnormal hends hstart hnext
  rw [parse_unfinished_followed hjunk htokens hunfinished hrest, readBehind_readBehind] at hread
  simpa [String.append_assoc] using hread

/-- The pattern `x <~a~b|<c>>` as a tree. -/
def shieldTree : List Node :=
  [.literal "x ", .conditional "~a~b" [.tag "c"] none]

/-- The tree stays whole before stray delimiters, before a dangling escape, and before a tag
expression without a name. -/
theorem parse_shieldTree_append :
    NormalForm shieldTree ∧ EndsInExpression shieldTree ∧ write shieldTree = "x <~a~b|<c>>" ∧
      parse "x <~a~b|<c>>>z<d|<e>" = .ok (shieldTree ++ [.literal "z"]) ∧
      parse "x <~a~b|<c>><d\\" = .error 14 ∧
      parse "x <~a~b|<c>><|y><d>" = .ok (shieldTree ++ [.tag "d"]) := by
  have hname : ∀ name ∈ ["~a~b", "c"], IsName name := by
    intro name hmem
    refine ⟨?_, ?_⟩ <;> revert name <;> decide
  have hnormal : NormalForm shieldTree := by
    constructor
    · exact .literal (by decide) (.conditional (hname _ (by decide)) (by simp)
        (.tag (hname _ (by decide)) .nil) .nil .nil)
    · exact .literal (by simp) (.conditional (.tag .nil) .nil .nil)
  have hends : EndsInExpression shieldTree := ⟨_, rfl, by simp⟩
  have hwrite : write shieldTree = "x <~a~b|<c>>" := by decide
  obtain ⟨hfollowed, hunfinished⟩ := parse_write_append hnormal hends
    (by rintro _ ⟨⟩; decide)
  rw [hwrite] at hfollowed hunfinished
  refine ⟨hnormal, hends, hwrite, ?_, ?_, ?_⟩
  · exact hfollowed ">z<d|<e>" (by rintro _ ⟨⟩; decide)
  · exact hfollowed "<d\\" (by rintro _ ⟨⟩; decide)
  · exact hunfinished "|y>" [.bar, .text ['y'], .closing, .endOfPattern]
      (by rintro _ ⟨⟩; decide) rfl ⟨by decide, fun _ => Or.inr rfl⟩ "<d>" rfl

end Songbook.Pattern
