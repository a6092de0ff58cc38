/-
**Binary64 numbers as coordinates and lengths.**

The instance by which the program computes: machine arithmetic, the fewest digits that identify a
number, and fixed places rounded to even.
-/

import DesignRules.Decimal.Text
import DesignRules.Scalar

namespace DesignRules

instance floatScalar : Scalar Float where
  decideLT := inferInstance
  decideLE := inferInstance
  magnitude := Float.abs
  root := Float.sqrt
  plainText := Decimal.plain
  fixedText := Decimal.fixed

end DesignRules
