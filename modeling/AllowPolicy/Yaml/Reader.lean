import AllowPolicy.Yaml

namespace AllowPolicy.Yaml

/-- What turns a document into data, or fails to. -/
class Reads where
  read : String → Except Problem Value

/-- The reader that is written out here. A part of a document that contains itself is unrolled only
    so far, and no depth of nesting is too much for it. -/
instance : Reads where
  read := Yaml.read

end AllowPolicy.Yaml
