import SqlModels.Model.Basic
import SqlModels.Region.Merge

/-!
The generated code: the bodies of the marked regions, one or more lines for each attribute or model,
and whole files for the first time they are written.
-/

namespace SqlModels

namespace Attribute

/-- The line of an attribute in the interface; one that may be missing has a question mark. -/
def interfaceLine (a : Attribute) : Text :=
  Text.ofPieces ["  ", a.name, if a.isRequired then "" else "?", ": ", a.valueType.name, ";\n"]

/-- The line of an attribute in the class; one that is always there has an exclamation mark. -/
def classLine (a : Attribute) : Text :=
  Text.ofPieces
    ["  public ", a.name, if a.isRequired then "!" else "", ": ", a.valueType.name, ";\n"]

end Attribute

def DefaultValue.text : DefaultValue → Text
  | .now => "NOW".toList
  | .emptyString => "\"\"".toList
  | .literal text => text

namespace Attribute

def autoIncrementLine (a : Attribute) : Text :=
  if a.autoIncrement then "          autoIncrement: true,\n".toList else []

def primaryKeyLine (a : Attribute) : Text :=
  if a.primaryKey then "          primaryKey: true,\n".toList else []

/-- A primary key is never null, so it has no line. -/
def allowNullLine (a : Attribute) : Text :=
  if !a.primaryKey && !a.allowNull then "          allowNull: false,\n".toList else []

def defaultLine (a : Attribute) : Text :=
  match a.defaultValue with
  | some d => "          defaultValue: ".toList ++ d.text ++ ",\n".toList
  | none => []

def definition (a : Attribute) : Text :=
  Text.ofPieces ["        ", a.name, ": \x7b\n", "          type: DataTypes.", a.storageType, ",\n"]
    ++ a.autoIncrementLine ++ a.primaryKeyLine ++ a.allowNullLine ++ a.defaultLine
    ++ "        \x7d,\n".toList

end Attribute

namespace Model

def interfaceLines (m : Model) : Text :=
  m.attributes.flatMap Attribute.interfaceLine

def classLines (m : Model) : Text :=
  m.attributes.flatMap Attribute.classLine

def definitions (m : Model) : Text :=
  m.attributes.flatMap Attribute.definition

def fragments (m : Model) : Fragments
  | .interfaceAttributes => some m.interfaceLines
  | .classAttributes => some m.classLines
  | .columnDefinitions => some m.definitions
  | _ => none

/-! The parts of a model file around its regions. -/

def interfaceHead (name : String) : Text :=
  Text.ofPieces
    ["import \x7b Sequelize, Model, DataTypes, NOW \x7d from \"sequelize\";\n\n",
      "export interface ", name, "Attributes \x7b\n"]

def classHead (name : String) : Text :=
  Text.ofPieces
    ["\n\x7d\n\nexport default class ", name, " extends Model<", name, "Attributes, Partial<", name,
      "Attributes>> \x7b\n"]

def initHead (name : String) : Text :=
  Text.ofPieces
    ["\n\n  public static bootstrap(sequelize: Sequelize) \x7b\n    ", name,
      ".init(\n      \x7b\n"]

def fileFoot (name : String) : Text :=
  Text.ofPieces
    ["\n      \x7d,\n      \x7b\n        sequelize,\n        tableName: \"", name,
      "\",\n        timestamps: false,\n      \x7d,\n    );\n  \x7d\n\x7d\n"]

def file (m : Model) : Text :=
  interfaceHead m.name ++ Region.interfaceAttributes.wrap m.interfaceLines
    ++ classHead m.name ++ Region.classAttributes.wrap m.classLines
    ++ initHead m.name ++ Region.columnDefinitions.wrap m.definitions
    ++ fileFoot m.name

def importLine (m : Model) : Text :=
  Text.ofPieces
    ["import ", m.name, ", \x7b ", m.name, "Attributes \x7d from \"./", m.name, "\";\n"]

def bootstrapLine (m : Model) : Text :=
  Text.ofPieces ["  ", m.name, ".bootstrap(sequelize);\n"]

def exportLines (m : Model) : Text :=
  Text.ofPieces ["  ", m.name, ",\n  ", m.name, "Attributes,\n"]

end Model

namespace Index

def importLines (models : List Model) : Text :=
  models.flatMap Model.importLine

def bootstrapLines (models : List Model) : Text :=
  models.flatMap Model.bootstrapLine

def exportLines (models : List Model) : Text :=
  models.flatMap Model.exportLines

def fragments (models : List Model) : Fragments
  | .imports => some (importLines models)
  | .bootstraps => some (bootstrapLines models)
  | .exports => some (exportLines models)
  | _ => none

/-! The parts of an index file around its regions. -/

def importHead : Text :=
  "import \x7b Sequelize \x7d from \"sequelize\";\n\n".toList

def loadHead : Text :=
  "\n\nexport function load(sequelize: Sequelize) \x7b\n".toList

def exportHead : Text :=
  "\n\x7d\n\nexport \x7b\n".toList

def fileFoot : Text :=
  "\n\x7d;\n".toList

def file (models : List Model) : Text :=
  importHead ++ Region.imports.wrap (importLines models)
    ++ loadHead ++ Region.bootstraps.wrap (bootstrapLines models)
    ++ exportHead ++ Region.exports.wrap (exportLines models)
    ++ fileFoot

end Index

end SqlModels
