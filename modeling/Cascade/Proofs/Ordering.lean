import Cascade.Proofs.Equality

/-!
# The order of values

Values are compared part by part, so the order of two values, where they have one, turns around when
they change places, and they have none in one direction just if they have none in the other. Without
doubles it is a strict order whose equality is sameness: a list that is less than another one is so by
its first unequal items, and what stands behind them is not looked at.

Doubles bring in two things. NaN counts as equal to every number in the order, though it is the same as
none; and an integer in a list counts as equal to a double that it comes to, though the two are not the
same. So of two values neither may be less, and still they are not equal. Nothing else comes between
the operators that compare and those that test for equality.

§1 integers, strings and truth values; §2 what has an order; §3 changing places; §4 sameness and order;
§5 values without doubles; §6 the operators.

Not followed here: transitivity where there are doubles. Two integers that come to one double part it.
-/

namespace Cascade

namespace Value

open Numeral (swap_compareDoubles beq_eq_compareDoubles isNaN_ofInt64)

/-! ## §1 Integers, strings and truth values -/

theorem compareBools_eq_compare : compareBools = compare := by
  funext p q
  cases p <;> cases q <;> rfl

instance : Std.TransCmp compareInts := inferInstanceAs (Std.TransCmp (compareOn Int64.toInt))

instance : Std.LawfulEqCmp compareInts where
  eq_of_compare h := Int64.toInt_inj.mp (Std.LawfulEqCmp.eq_of_compare h)

instance : Std.TransCmp compareStrings := inferInstanceAs (Std.TransCmp (compare (α := String)))

instance : Std.LawfulEqCmp compareStrings :=
  inferInstanceAs (Std.LawfulEqCmp (compare (α := String)))

instance : Std.TransCmp compareBools := compareBools_eq_compare ▸ inferInstance

instance : Std.LawfulEqCmp compareBools := compareBools_eq_compare ▸ inferInstance

/-! ## §2 What has an order

Whatever has an order with a value is of its kind, or a number if it is a number. -/

theorem order_int_iff {m : Int64} {b : Value} {o : Ordering} :
    order (.int m) b = .ok o ↔
      (∃ n, b = .int n ∧ compareInts m n = o) ∨
        ∃ y, b = .double y ∧ compareDoubles (Numeral.ofInt64 m) y = o := by
  cases b <;> simp [order]

theorem order_double_iff {x : Float} {b : Value} {o : Ordering} :
    order (.double x) b = .ok o ↔
      (∃ n, b = .int n ∧ compareDoubles x (Numeral.ofInt64 n) = o) ∨
        ∃ y, b = .double y ∧ compareDoubles x y = o := by
  cases b <;> simp [order]

theorem order_string_iff {s : String} {b : Value} {o : Ordering} :
    order (.string s) b = .ok o ↔ ∃ t, b = .string t ∧ compareStrings s t = o := by
  cases b <;> simp [order]

theorem order_bool_iff {p : Bool} {b : Value} {o : Ordering} :
    order (.bool p) b = .ok o ↔ ∃ q, b = .bool q ∧ compareBools p q = o := by
  cases b <;> simp [order]

theorem order_list_iff {as : List Value} {b : Value} {o : Ordering} :
    order (.list as) b = .ok o ↔ ∃ bs, b = .list bs ∧ orderAll as bs = .ok o := by
  cases b <;> simp [order]

/-- **The order of two lists** is the order of their heads, or that of their tails if the heads are
equal. -/
theorem orderAll_cons_iff {a b : Value} {as bs : List Value} {o : Ordering} :
    orderAll (a :: as) (b :: bs) = .ok o ↔
      order a b = .ok o ∧ o ≠ .eq ∨ order a b = .ok .eq ∧ orderAll as bs = .ok o := by
  rw [orderAll]
  cases order a b with
  | error e => simp
  | ok p => cases p <;> cases o <;> simp

/-- Lists are equal in the order if their heads and their tails are. -/
theorem orderAll_cons_eq_iff {a : Value} {as vs : List Value} :
    orderAll (a :: as) vs = .ok .eq ↔
      ∃ b bs, vs = b :: bs ∧ order a b = .ok .eq ∧ orderAll as bs = .ok .eq := by
  cases vs with
  | nil => simp [orderAll]
  | cons b bs => simp [orderAll_cons_iff]

theorem orderAll_nil_eq_iff {vs : List Value} : orderAll [] vs = .ok .eq ↔ vs = [] := by
  cases vs <;> simp [orderAll]

/-! ## §3 Changing places -/

mutual

/-- **The order turns around** when two values change places. -/
theorem order_swap : ∀ {a b : Value} {o : Ordering}, order a b = .ok o → order b a = .ok o.swap
  | .int m, b, o, h => by
    obtain ⟨n, rfl, rfl⟩ | ⟨y, rfl, rfl⟩ := order_int_iff.mp h
    · exact congrArg Except.ok Std.OrientedCmp.eq_swap
    · exact congrArg Except.ok (swap_compareDoubles _ y).symm
  | .double x, b, o, h => by
    obtain ⟨n, rfl, rfl⟩ | ⟨y, rfl, rfl⟩ := order_double_iff.mp h
    · exact congrArg Except.ok (swap_compareDoubles x _).symm
    · exact congrArg Except.ok (swap_compareDoubles x y).symm
  | .string s, b, o, h => by
    obtain ⟨t, rfl, rfl⟩ := order_string_iff.mp h
    exact congrArg Except.ok Std.OrientedCmp.eq_swap
  | .bool p, b, o, h => by
    obtain ⟨q, rfl, rfl⟩ := order_bool_iff.mp h
    exact congrArg Except.ok Std.OrientedCmp.eq_swap
  | .list as, b, o, h => by
    obtain ⟨bs, rfl, hall⟩ := order_list_iff.mp h
    exact order_list_iff.mpr ⟨as, rfl, orderAll_swap hall⟩

theorem orderAll_swap : ∀ {as bs : List Value} {o : Ordering},
    orderAll as bs = .ok o → orderAll bs as = .ok o.swap
  | [], [], o, h => by
    obtain rfl := Except.ok.inj h
    rfl
  | [], _ :: _, o, h => by
    obtain rfl := Except.ok.inj h
    rfl
  | _ :: _, [], o, h => by
    obtain rfl := Except.ok.inj h
    rfl
  | a :: as, b :: bs, o, h => by
    rw [orderAll_cons_iff] at h ⊢
    obtain ⟨hhead, hne⟩ | ⟨hhead, htail⟩ := h
    · exact Or.inl ⟨order_swap hhead, fun heq => hne (Ordering.swap_eq_eq.mp heq)⟩
    · exact Or.inr ⟨order_swap hhead, orderAll_swap htail⟩

end

/-- **Two values have an order in both directions or in neither**, and if they have, then the one is
the other turned around. -/
theorem order_both_or_neither (a b : Value) :
    (∃ o, order a b = .ok o ∧ order b a = .ok o.swap) ∨
      ∃ e e', order a b = .error e ∧ order b a = .error e' := by
  cases hab : order a b with
  | ok o => exact Or.inl ⟨o, rfl, order_swap hab⟩
  | error e =>
    cases hba : order b a with
    | ok o =>
      rw [order_swap hba] at hab
      cases hab
    | error e' => exact Or.inr ⟨e, e', rfl, rfl⟩

/-! ## §4 Sameness and order -/

mutual

/-- **Values that are the same are equal in the order.** -/
theorem order_of_same : ∀ {a b : Value}, same a b = true → order a b = .ok .eq
  | .int n, b, h => by
    rw [same_int_iff.mp h]
    exact congrArg Except.ok Std.ReflCmp.compare_self
  | .double x, b, h => by
    obtain ⟨y, rfl, hxy⟩ := same_double_iff.mp h
    rw [beq_eq_compareDoubles, Bool.and_eq_true, beq_iff_eq] at hxy
    exact congrArg Except.ok hxy.1
  | .string s, b, h => by
    rw [same_string_iff.mp h]
    exact congrArg Except.ok Std.ReflCmp.compare_self
  | .bool p, b, h => by
    rw [same_bool_iff.mp h]
    exact congrArg Except.ok Std.ReflCmp.compare_self
  | .list as, b, h => by
    obtain ⟨bs, rfl, hall⟩ := same_list_iff.mp h
    exact order_list_iff.mpr ⟨bs, rfl, orderAll_of_sameAll hall⟩

theorem orderAll_of_sameAll : ∀ {as bs : List Value},
    sameAll as bs = true → orderAll as bs = .ok .eq
  | [], [], _ => rfl
  | a :: as, bs, h => by
    obtain ⟨b, bs, rfl, hhead, htail⟩ := sameAll_cons_iff.mp h
    exact orderAll_cons_eq_iff.mpr
      ⟨b, bs, rfl, order_of_same hhead, orderAll_of_sameAll htail⟩

end

mutual

/-- **Do two values clash**, in that somewhere in them, at the same place, an integer meets a double or
one of two doubles is NaN? -/
def clashes : Value → Value → Bool
  | .int _, .double _ => true
  | .double _, .int _ => true
  | .double x, .double y => x.isNaN || y.isNaN
  | .list as, .list bs => clashesAll as bs
  | _, _ => false

/-- Do two values clash that stand at the same place of two lists? -/
def clashesAll : List Value → List Value → Bool
  | a :: as, b :: bs => clashes a b || clashesAll as bs
  | _, _ => false

end

mutual

/-- **Values that are equal in the order are the same** just if they do not clash. -/
theorem same_of_order : ∀ {a b : Value}, order a b = .ok .eq → same a b = !clashes a b
  | .int m, b, h => by
    obtain ⟨n, rfl, heq⟩ | ⟨y, rfl, -⟩ := order_int_iff.mp h
    · exact beq_iff_eq.mpr (Std.LawfulEqCmp.eq_of_compare heq)
    -- an integer is not the same as a double, whatever it comes to
    · rfl
  | .double x, b, h => by
    obtain ⟨n, rfl, -⟩ | ⟨y, rfl, heq⟩ := order_double_iff.mp h
    · rfl
    · rw [same, clashes, beq_eq_compareDoubles, heq, beq_self_eq_true, Bool.true_and]
  | .string s, b, h => by
    obtain ⟨t, rfl, heq⟩ := order_string_iff.mp h
    exact beq_iff_eq.mpr (Std.LawfulEqCmp.eq_of_compare heq)
  | .bool p, b, h => by
    obtain ⟨q, rfl, heq⟩ := order_bool_iff.mp h
    exact beq_iff_eq.mpr (Std.LawfulEqCmp.eq_of_compare heq)
  | .list as, b, h => by
    obtain ⟨bs, rfl, hall⟩ := order_list_iff.mp h
    rw [same, clashes]
    exact sameAll_of_orderAll hall

theorem sameAll_of_orderAll : ∀ {as bs : List Value},
    orderAll as bs = .ok .eq → sameAll as bs = !clashesAll as bs
  | [], bs, h => by
    obtain rfl := orderAll_nil_eq_iff.mp h
    rfl
  | a :: as, bs, h => by
    obtain ⟨b, bs, rfl, hhead, htail⟩ := orderAll_cons_eq_iff.mp h
    rw [sameAll, clashesAll, same_of_order hhead, sameAll_of_orderAll htail, Bool.not_or]

end

/-- **Values that have an order are the same** just if they are equal in it and do not clash. -/
theorem same_eq_of_order {a b : Value} {o : Ordering} (h : order a b = .ok o) :
    same a b = (o == .eq && !clashes a b) := by
  by_cases heq : o = .eq
  · subst heq
    exact same_of_order h
  · rw [beq_eq_false_iff_ne.mpr heq, Bool.false_and]
    refine Bool.eq_false_iff.mpr fun hsame => heq ?_
    rw [order_of_same hsame] at h
    exact (Except.ok.inj h).symm

/-! ## §5 Values without doubles -/

mutual

/-- **Is no double in the value**, however deep? -/
def doubleFree : Value → Bool
  | .double _ => false
  | .list items => doubleFreeAll items
  | .int _ | .string _ | .bool _ => true

/-- Is no double in any of the values? -/
def doubleFreeAll : List Value → Bool
  | [] => true
  | v :: vs => doubleFree v && doubleFreeAll vs

end

theorem doubleFreeAll_cons_iff {v : Value} {vs : List Value} :
    doubleFreeAll (v :: vs) = true ↔ doubleFree v = true ∧ doubleFreeAll vs = true := by
  rw [doubleFreeAll, Bool.and_eq_true]

/-- Without doubles only an integer has an order with an integer. -/
theorem order_int_iff_of_doubleFree {m : Int64} {b : Value} {o : Ordering}
    (hb : b.doubleFree = true) :
    order (.int m) b = .ok o ↔ ∃ n, b = .int n ∧ compareInts m n = o := by
  rw [order_int_iff, or_iff_left]
  rintro ⟨y, rfl, -⟩
  cases hb

mutual

theorem nanFree_of_doubleFree : ∀ {v : Value}, v.doubleFree = true → v.nanFree = true
  | .int _, _ => rfl
  | .string _, _ => rfl
  | .bool _, _ => rfl
  | .list items, h => by
    rw [doubleFree] at h
    rw [nanFree]
    exact nanFreeAll_of_doubleFreeAll h

theorem nanFreeAll_of_doubleFreeAll : ∀ {vs : List Value},
    doubleFreeAll vs = true → nanFreeAll vs = true
  | [], _ => rfl
  | v :: vs, h => by
    obtain ⟨hv, hvs⟩ := doubleFreeAll_cons_iff.mp h
    rw [nanFreeAll, nanFree_of_doubleFree hv, nanFreeAll_of_doubleFreeAll hvs, Bool.and_self]

end

mutual

/-- **Without doubles only one value is equal to a value** in the order: itself. -/
theorem eq_of_order : ∀ {a b : Value}, a.doubleFree = true → b.doubleFree = true →
    order a b = .ok .eq → a = b
  | .int m, b, _, hb, h => by
    obtain ⟨n, rfl, heq⟩ := (order_int_iff_of_doubleFree hb).mp h
    rw [Std.LawfulEqCmp.eq_of_compare heq]
  | .string s, b, _, _, h => by
    obtain ⟨t, rfl, heq⟩ := order_string_iff.mp h
    rw [Std.LawfulEqCmp.eq_of_compare heq]
  | .bool p, b, _, _, h => by
    obtain ⟨q, rfl, heq⟩ := order_bool_iff.mp h
    rw [Std.LawfulEqCmp.eq_of_compare heq]
  | .list as, b, ha, hb, h => by
    obtain ⟨bs, rfl, hall⟩ := order_list_iff.mp h
    rw [doubleFree] at ha hb
    rw [eq_of_orderAll ha hb hall]

theorem eq_of_orderAll : ∀ {as bs : List Value}, doubleFreeAll as = true →
    doubleFreeAll bs = true → orderAll as bs = .ok .eq → as = bs
  | [], bs, _, _, h => (orderAll_nil_eq_iff.mp h).symm
  | a :: as, bs, ha, hb, h => by
    obtain ⟨b, bs, rfl, hhead, htail⟩ := orderAll_cons_eq_iff.mp h
    obtain ⟨ha, has⟩ := doubleFreeAll_cons_iff.mp ha
    obtain ⟨hb, hbs⟩ := doubleFreeAll_cons_iff.mp hb
    rw [eq_of_order ha hb hhead, eq_of_orderAll has hbs htail]

end

mutual

/-- **Without doubles, what is less than something less is less.** -/
theorem order_lt_trans : ∀ {a b c : Value}, a.doubleFree = true → b.doubleFree = true →
    c.doubleFree = true → order a b = .ok .lt → order b c = .ok .lt → order a c = .ok .lt
  | .int m, b, c, _, hb, hc, hab, hbc => by
    obtain ⟨n, rfl, hmn⟩ := (order_int_iff_of_doubleFree hb).mp hab
    obtain ⟨k, rfl, hnk⟩ := (order_int_iff_of_doubleFree hc).mp hbc
    exact order_int_iff.mpr (Or.inl ⟨k, rfl, Std.TransCmp.lt_trans hmn hnk⟩)
  | .string s, b, c, _, _, _, hab, hbc => by
    obtain ⟨t, rfl, hst⟩ := order_string_iff.mp hab
    obtain ⟨u, rfl, htu⟩ := order_string_iff.mp hbc
    exact order_string_iff.mpr ⟨u, rfl, Std.TransCmp.lt_trans hst htu⟩
  | .bool p, b, c, _, _, _, hab, hbc => by
    obtain ⟨q, rfl, hpq⟩ := order_bool_iff.mp hab
    obtain ⟨r, rfl, hqr⟩ := order_bool_iff.mp hbc
    exact order_bool_iff.mpr ⟨r, rfl, Std.TransCmp.lt_trans hpq hqr⟩
  | .list as, b, c, ha, hb, hc, hab, hbc => by
    obtain ⟨bs, rfl, habs⟩ := order_list_iff.mp hab
    obtain ⟨cs, rfl, hbcs⟩ := order_list_iff.mp hbc
    rw [doubleFree] at ha hb hc
    exact order_list_iff.mpr ⟨cs, rfl, orderAll_lt_trans ha hb hc habs hbcs⟩

theorem orderAll_lt_trans : ∀ {as bs cs : List Value}, doubleFreeAll as = true →
    doubleFreeAll bs = true → doubleFreeAll cs = true → orderAll as bs = .ok .lt →
    orderAll bs cs = .ok .lt → orderAll as cs = .ok .lt
  | [], bs, [], _, _, _, _, hbc => by cases bs <;> cases hbc
  | [], _, _ :: _, _, _, _, _, _ => rfl
  | _ :: _, [], _, _, _, _, hab, _ => by cases hab
  | _ :: _, _ :: _, [], _, _, _, _, hbc => by cases hbc
  | a :: as, b :: bs, c :: cs, ha, hb, hc, hab, hbc => by
    obtain ⟨ha, has⟩ := doubleFreeAll_cons_iff.mp ha
    obtain ⟨hb, hbs⟩ := doubleFreeAll_cons_iff.mp hb
    obtain ⟨hc, hcs⟩ := doubleFreeAll_cons_iff.mp hc
    rw [orderAll_cons_iff] at hab hbc ⊢
    -- the heads decide as soon as one of the two pairs of them is unequal
    obtain ⟨hab, -⟩ | ⟨hab, habs⟩ := hab
    · obtain ⟨hbc, -⟩ | ⟨hbc, -⟩ := hbc
      · exact Or.inl ⟨order_lt_trans ha hb hc hab hbc, nofun⟩
      · rw [← eq_of_order hb hc hbc]
        exact Or.inl ⟨hab, nofun⟩
    · rw [eq_of_order ha hb hab]
      obtain ⟨hbc, -⟩ | ⟨hbc, hbcs⟩ := hbc
      · exact Or.inl ⟨hbc, nofun⟩
      · exact Or.inr ⟨hbc, orderAll_lt_trans has hbs hcs habs hbcs⟩

end

/-- **Without doubles the order is one.** Two values have an order in both directions, the one that of
the other turned around, or in neither; they are equal in it just if they are the same, which means that
they are one value; and if a value is less than another one, and that one than a third, then the first
has an order with the third and is less, whatever stands in lists behind the items that decide. -/
theorem order_laws {a b c : Value} (ha : a.doubleFree = true) (hb : b.doubleFree = true)
    (hc : c.doubleFree = true) :
    ((∃ o, order a b = .ok o ∧ order b a = .ok o.swap) ∨
        ∃ e e', order a b = .error e ∧ order b a = .error e') ∧
      (order a b = .ok .eq ↔ a.same b = true) ∧ (a.same b = true ↔ a = b) ∧
      (order a b = .ok .lt → order b c = .ok .lt → order a c = .ok .lt) := by
  have hsame : a = b → a.same b = true := by
    rintro rfl
    rw [same_self]
    exact nanFree_of_doubleFree ha
  refine ⟨order_both_or_neither a b, ?_, ?_, ?_⟩
  · exact ⟨fun h => hsame (eq_of_order ha hb h), order_of_same⟩
  · exact ⟨fun h => eq_of_order ha hb (order_of_same h), hsame⟩
  · intro hab hbc
    exact order_lt_trans ha hb hc hab hbc

/-- Lists that are decided by their second items, in front of items that have no order. -/
theorem second_items_decide :
    let a : Value := .list [.string "x", .list [.int 1, .bool true], .int 5]
    let b : Value := .list [.string "x", .list [.int 2, .string "y"], .bool false]
    let c : Value := .list [.string "x", .list [.int 3], .list [], .int 7]
    (a.doubleFree = true ∧ b.doubleFree = true ∧ c.doubleFree = true) ∧
      (order a b = .ok .lt ∧ order b c = .ok .lt) ∧ order a c = .ok .lt := by
  intro a b c
  have ha : a.doubleFree = true := rfl
  have hb : b.doubleFree = true := rfl
  have hc : c.doubleFree = true := rfl
  have hab : order a b = .ok .lt := rfl
  have hbc : order b c = .ok .lt := rfl
  exact ⟨⟨ha, hb, hc⟩, ⟨hab, hbc⟩, (order_laws ha hb hc).2.2.2 hab hbc⟩

end Value

/-! ## §6 The operators -/

namespace Operator

open Numeral (beq_eq_compareDoubles isNaN_ofInt64)

/-- **Do two operands clash?** At the top an integer and a double are both numbers, so they clash only
if the double is NaN; in lists they clash whatever they are. -/
def clash : Value → Value → Bool
  | .int _, .double y => y.isNaN
  | .double x, .int _ => x.isNaN
  | l, r => l.clashes r

/-- **Values that have an order are equal** just if they are equal in it and do not clash. -/
theorem equalValues_of_order {l r : Value} {o : Ordering} (h : l.order r = .ok o) :
    equalValues l r = (o == .eq && !clash l r) := by
  cases l with
  | int m =>
    cases r with
    | double y =>
      obtain rfl := Except.ok.inj h
      show (Numeral.ofInt64 m == y) = _
      rw [beq_eq_compareDoubles, isNaN_ofInt64, Bool.false_or]
      rfl
    | _ => exact Value.same_eq_of_order h
  | double x =>
    cases r with
    | int n =>
      obtain rfl := Except.ok.inj h
      show (Numeral.ofInt64 n == x) = _
      rw [BEq.comm, beq_eq_compareDoubles, isNaN_ofInt64, Bool.or_false]
      rfl
    | _ => exact Value.same_eq_of_order h
  | _ => exact Value.same_eq_of_order h

/-- Inequality is the opposite of equality. -/
theorem holds_notEqual_iff {l r : Value} : Holds .notEqual l r ↔ ¬ Holds .equal l r := by
  rw [holds_equal_iff]
  show Except.ok (Value.bool (!equalValues l r)) = Except.ok (Value.bool true) ↔ _
  rw [Except.ok.injEq, Value.bool.injEq, Bool.not_eq_true, Bool.not_eq_true']

section

variable {l r : Value} {o : Ordering} (h : l.order r = .ok o)

include h

theorem comparing_of_order (test : Ordering → Bool) : comparing test l r = .ok (.bool (test o)) := by
  rw [comparing, h]
  rfl

theorem comparing_iff_of_order {test : Ordering → Bool} :
    comparing test l r = .ok (.bool true) ↔ test o = true := by
  rw [comparing_of_order h, Except.ok.injEq, Value.bool.injEq]

theorem holds_less_iff : Holds .less l r ↔ o = .lt := (comparing_iff_of_order h).trans beq_iff_eq

theorem holds_greater_iff : Holds .greater l r ↔ o = .gt :=
  (comparing_iff_of_order h).trans beq_iff_eq

theorem holds_lessEqual_iff : Holds .lessEqual l r ↔ o ≠ .gt :=
  (comparing_iff_of_order h).trans bne_iff_ne

theorem holds_greaterEqual_iff : Holds .greaterEqual l r ↔ o ≠ .lt :=
  (comparing_iff_of_order h).trans bne_iff_ne

theorem holds_equal_iff_of_order : Holds .equal l r ↔ o = .eq ∧ clash l r = false := by
  rw [holds_equal_iff, equalValues_of_order h, Bool.and_eq_true, beq_iff_eq, Bool.not_eq_true']

end

/-- The operator that tells of an order. -/
def telling : Ordering → Operator
  | .lt => .less
  | .eq => .equal
  | .gt => .greater

/-- **Comparison and equality agree** on two values: one of them is less, or they are equal, and only
one of these; and the other three operators are made of these as their names say. -/
structure Agree (l r : Value) : Prop where
  one : ∃! o, Holds (telling o) l r
  notEqual : Holds .notEqual l r ↔ ¬ Holds .equal l r
  lessEqual : Holds .lessEqual l r ↔ Holds .less l r ∨ Holds .equal l r
  greaterEqual : Holds .greaterEqual l r ↔ Holds .greater l r ∨ Holds .equal l r

/-- **Comparison and equality agree** where one value is less or the two do not clash. -/
theorem agree_iff_of_order {l r : Value} {o : Ordering} (h : l.order r = .ok o) :
    Agree l r ↔ o ≠ .eq ∨ clash l r = false := by
  constructor
  · rintro ⟨⟨p, hp, -⟩, -⟩
    cases p with
    | lt =>
      left
      rw [(holds_less_iff h).mp hp]
      nofun
    | eq => exact Or.inr ((holds_equal_iff_of_order h).mp hp).2
    | gt =>
      left
      rw [(holds_greater_iff h).mp hp]
      nofun
  · intro hfree
    have heq : Holds .equal l r ↔ o = .eq := by
      rw [holds_equal_iff_of_order h, and_iff_left_iff_imp]
      exact fun heq => hfree.resolve_left (not_not_intro heq)
    have htelling : ∀ p, Holds (telling p) l r ↔ o = p := by
      intro p
      cases p with
      | lt => exact holds_less_iff h
      | eq => exact heq
      | gt => exact holds_greater_iff h
    refine ⟨⟨o, (htelling o).mpr rfl, fun p hp => ((htelling p).mp hp).symm⟩, holds_notEqual_iff,
      ?_, ?_⟩
    · rw [holds_lessEqual_iff h, holds_less_iff h, heq]
      cases o <;> decide
    · rw [holds_greaterEqual_iff h, holds_greater_iff h, heq]
      cases o <;> decide

/-- The operators that compare and those that test for equality. -/
def relations : List Operator := [.equal, .notEqual, .less, .greater, .lessEqual, .greaterEqual]

/-- Where values have an order, every relation tells true or false of them. -/
theorem apply_relation_of_order {l r : Value} {o : Ordering} (h : l.order r = .ok o) :
    ∀ op ∈ relations, ∃ b, op.apply l r = .ok (.bool b) := by
  rw [relations, List.forall_mem_cons, List.forall_mem_cons]
  refine ⟨⟨equalValues l r, rfl⟩, ⟨!equalValues l r, rfl⟩, ?_⟩
  simp only [List.forall_mem_cons, List.not_mem_nil, false_imp_iff, implies_true, and_true]
  exact ⟨⟨_, comparing_of_order h _⟩, ⟨_, comparing_of_order h _⟩, ⟨_, comparing_of_order h _⟩,
    ⟨_, comparing_of_order h _⟩⟩

/-- Where `<` applies, the values have an order. -/
theorem order_of_apply_less {l r v : Value} (h : Operator.less.apply l r = .ok v) :
    ∃ o, l.order r = .ok o := by
  change (l.order r).map _ = _ at h
  cases horder : l.order r with
  | ok o => exact ⟨o, rfl⟩
  | error e =>
    rw [horder] at h
    cases h

/-- **The laws of comparison.** Where `<` applies to two values, so do the other operators that compare
or test for equality. They agree just if one of the values is less or the two do not clash. If they do
not agree, then neither value is less and they are not equal either, though each is less than or equal
to the other. -/
theorem comparison_laws {l r v : Value} (h : Operator.less.apply l r = .ok v) :
    (∀ op ∈ relations, ∃ b, op.apply l r = .ok (.bool b)) ∧
      (Agree l r ↔ Holds .less l r ∨ Holds .greater l r ∨ clash l r = false) ∧
      (¬ Agree l r →
        (¬ Holds .less l r ∧ ¬ Holds .equal l r ∧ ¬ Holds .greater l r) ∧
          Holds .notEqual l r ∧ Holds .lessEqual l r ∧ Holds .greaterEqual l r) := by
  obtain ⟨o, horder⟩ := order_of_apply_less h
  simp only [holds_notEqual_iff, holds_less_iff horder, holds_greater_iff horder,
    holds_lessEqual_iff horder, holds_greaterEqual_iff horder, holds_equal_iff_of_order horder,
    agree_iff_of_order horder]
  refine ⟨apply_relation_of_order horder, ?_, ?_⟩
  · cases o <;> simp
  · intro hdisagree
    obtain ⟨heq, hfree⟩ := not_or.mp hdisagree
    obtain rfl := not_not.mp heq
    have hclash : clash l r = true := (Bool.not_eq_false _).mp hfree
    simp [hclash]

/-- An integer is less than a double, and lists with the two zeros in them are equal. -/
theorem numbers_agree :
    let l : Value := .list [.double 0.0, .string "a"]
    let r : Value := .list [.double (-0.0), .string "a"]
    Operator.less.apply (.int 2) (.double 2.5) = .ok (.bool true) ∧
      Agree (.int 2) (.double 2.5) ∧
      Operator.less.apply l r = .ok (.bool false) ∧ clash l r = false ∧ Agree l r := by
  intro l r
  have hless : Holds .less (.int 2) (.double 2.5) := by decide +kernel
  have hlists : Operator.less.apply l r = .ok (.bool false) := by decide +kernel
  have hclash : clash l r = false := by decide
  exact ⟨hless, (comparison_laws hless).2.1.mpr (Or.inl hless), hlists, hclash,
    (comparison_laws hlists).2.1.mpr (Or.inr (Or.inr hclash))⟩

/-- **Comparison and equality do not always agree**: an integer and a double that it comes to are
equal, but the lists of one item that they are in are not, and neither of these is less; and no number
is less than NaN, greater, or equal to it. -/
theorem lists_of_one_disagree :
    (Holds .equal (.int 1) (.double 1.0) ∧
        Operator.less.apply (.list [.int 1]) (.list [.double 1.0]) = .ok (.bool false) ∧
        ¬ Agree (.list [.int 1]) (.list [.double 1.0])) ∧
      Operator.less.apply (.int 1) (.double (0.0 / 0.0)) = .ok (.bool false) ∧
      ¬ Agree (.int 1) (.double (0.0 / 0.0)) := by
  refine ⟨⟨by decide +kernel, by decide +kernel, ?_⟩, by decide +kernel, ?_⟩
  · rintro ⟨⟨p, hp, -⟩, -⟩
    revert hp
    cases p <;> decide +kernel
  · rintro ⟨⟨p, hp, -⟩, -⟩
    revert hp
    cases p <;> decide +kernel

end Operator

end Cascade
