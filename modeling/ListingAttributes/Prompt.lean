import ListingAttributes.Category
import ListingAttributes.Json.Members
import ListingAttributes.Template
import ListingAttributes.Text.Blank

/-!
# Prompts

The texts that a backend is asked with.  One template asks for the category of a listing title;
every category but `other` has a template that asks for its attributes as one JSON object.
-/

namespace ListingAttributes

/-- The item specifics of a listing: texts by name, in ascending order of names. -/
structure Specifics where
  entries : List (String × String)
  ascending : Json.Ascending entries

namespace Specifics

/-- The specifics that hold the last text written under each name. -/
def ofEntries (entries : List (String × String)) : Specifics :=
  ⟨Json.ofEntries entries, Json.ascending_ofEntries entries⟩

end Specifics

namespace Prompt

/-- What stands for specifics or a description that a listing lacks. -/
def notAvailable : List Char := "N/A".toList

/-- A name and its text, separated by a colon. -/
def specificText (entry : String × String) : List Char :=
  entry.1.toList ++ ':' :: ' ' :: entry.2.toList

/-- The entries that follow the first, each behind a comma. -/
def furtherSpecificsText : List (String × String) → List Char
  | [] => []
  | entry :: entries => ',' :: ' ' :: specificText entry ++ furtherSpecificsText entries

/-- Specifics on one line. -/
def specificsText (specifics : Specifics) : List Char :=
  match specifics.entries with
  | [] => notAvailable
  | entry :: entries => specificText entry ++ furtherSpecificsText entries

/-- A description without the blanks around it. -/
def descriptionText (description : List Char) : List Char :=
  if Text.trim description = [] then notAvailable else Text.trim description

/-! ## Templates -/

namespace Templates

/-- The text of a list of lines. -/
def joinLines (lines : List String) : List Char := ("\n".intercalate lines).toList

/-- Asks for the category of a title. -/
def classification : List Char := joinLines
  ["Classify this marketplace listing title into exactly one hardware category.",
   "",
   "Categories:",
   "- ram: memory modules (DIMM, RDIMM, LRDIMM, SODIMM, DDR3/DDR4/DDR5)",
   "- drive: hard drives and solid state drives (HDD, SSD, NVMe, SAS, SATA, U.2)",
   "- server: complete servers, barebones chassis, nodes (PowerEdge, ProLiant, Supermicro)",
   "- cpu: processors (Xeon, EPYC)",
   "- nic: network interface cards (10GbE, 25GbE, SFP+, QSFP, ConnectX, X520)",
   "- other: anything else (cables, rails, GPUs, power supplies, lots of mixed parts)",
   "",
   "Title: \x7b\x7btitle\x7d\x7d",
   "",
   "Answer with the category word only: ram, drive, server, cpu, nic, or other."]

/-- Asks for the attributes of a memory module. -/
def memory : List Char := joinLines
  ["Extract memory module attributes from this listing.",
   "",
   "Title: \x7b\x7btitle\x7d\x7d",
   "Item specifics: \x7b\x7bspecifics\x7d\x7d",
   "",
   "Return a JSON object with these fields:",
   "\x7b",
   "  \"manufacturer\": \"Samsung, SK Hynix, Micron, Kingston, ... or null\",",
   "  \"capacity_gb\": capacity of ONE module in GB (number, 1-1024),",
   "  \"quantity\": number of modules in the listing (number >= 1, default 1),",
   "  \"generation\": \"DDR3\" | \"DDR4\" | \"DDR5\",",
   "  \"speed_mhz\": data rate in MT/s (number, 800-8400) or null if not stated,",
   "  \"ecc\": true | false | null,",
   "  \"registered\": true | false | null (true for RDIMM/LRDIMM),",
   "  \"form_factor\": \"DIMM\" | \"SODIMM\" | \"LRDIMM\" | null,",
   "  \"rank\": \"1Rx4\", \"2Rx8\", ... or null,",
   "  \"part_number\": manufacturer part number or null,",
   "  \"condition\": \"new\" | \"like_new\" | \"used_working\" | \"for_parts\" | \"unknown\",",
   "  \"confidence\": your confidence in this extraction (0.0-1.0)",
   "\x7d",
   "",
   "Rules:",
   "- A PC module code such as PC4-21300 or PC4-2666V encodes the speed; DDR4-2666 means 2666",
   "- \"4x16GB\" means capacity_gb 16 and quantity 4",
   "- Use null for anything the listing does not state",
   "",
   "Return ONLY valid JSON, no markdown code blocks, no explanations."]

/-- Asks for the attributes of a drive. -/
def drive : List Char := joinLines
  ["Extract storage drive attributes from this listing.",
   "",
   "Title: \x7b\x7btitle\x7d\x7d",
   "Item specifics: \x7b\x7bspecifics\x7d\x7d",
   "",
   "Return a JSON object with these fields:",
   "\x7b",
   "  \"manufacturer\": \"Seagate, WD, HGST, Samsung, Intel, Micron, ... or null\",",
   "  \"model\": model or part number or null,",
   "  \"capacity\": capacity as written with unit, e.g. \"4TB\", \"960GB\", \"1.92TB\",",
   "  \"interface\": \"SAS\" | \"SATA\" | \"NVMe\" | \"U.2\",",
   "  \"form_factor\": \"2.5\" | \"3.5\" | null,",
   "  \"type\": \"SSD\" | \"HDD\" | null,",
   "  \"rpm\": spindle speed for HDDs (5400, 7200, 10000, 15000) or null,",
   "  \"quantity\": number of drives in the listing (number >= 1, default 1),",
   "  \"condition\": \"new\" | \"like_new\" | \"used_working\" | \"for_parts\" | \"unknown\",",
   "  \"confidence\": your confidence in this extraction (0.0-1.0)",
   "\x7d",
   "",
   "Rules:",
   "- Form factor values are strings without the inch mark",
   "- Use null for anything the listing does not state",
   "",
   "Return ONLY valid JSON, no markdown code blocks, no explanations."]

/-- Asks for the attributes of a server; the only template with a description. -/
def server : List Char := joinLines
  ["Extract server attributes from this listing.",
   "",
   "Title: \x7b\x7btitle\x7d\x7d",
   "Item specifics: \x7b\x7bspecifics\x7d\x7d",
   "Description: \x7b\x7bdescription\x7d\x7d",
   "",
   "Return a JSON object with these fields:",
   "\x7b",
   "  \"manufacturer\": \"Dell\", \"HPE\", \"Supermicro\", \"Lenovo\", ...,",
   "  \"model\": model name, e.g. \"PowerEdge R740\", \"ProLiant DL380 Gen10\",",
   "  \"form_factor\": \"1U\" | \"2U\" | \"4U\" | \"tower\" | null,",
   "  \"cpu_model\": installed processor model or null,",
   "  \"cpu_count\": number of installed processors or null,",
   "  \"ram_gb\": total installed memory in GB or null,",
   "  \"drive_bays\": number of drive bays or null,",
   "  \"drive_form_factor\": \"2.5\" | \"3.5\" | null (size of the drive bays),",
   "  \"quantity\": number of servers in the listing (number >= 1, default 1),",
   "  \"condition\": \"new\" | \"like_new\" | \"used_working\" | \"for_parts\" | \"unknown\",",
   "  \"confidence\": your confidence in this extraction (0.0-1.0)",
   "\x7d",
   "",
   "Rules:",
   "- \"barebones\" or \"no CPU/RAM\" means cpu_count 0 and ram_gb 0",
   "- SFF bays are \"2.5\", LFF bays are \"3.5\"",
   "- Use null for anything the listing does not state",
   "",
   "Return ONLY valid JSON, no markdown code blocks, no explanations."]

/-- Asks for the attributes of a processor. -/
def processor : List Char := joinLines
  ["Extract processor attributes from this listing.",
   "",
   "Title: \x7b\x7btitle\x7d\x7d",
   "Item specifics: \x7b\x7bspecifics\x7d\x7d",
   "",
   "Return a JSON object with these fields:",
   "\x7b",
   "  \"manufacturer\": \"Intel\" | \"AMD\",",
   "  \"family\": \"Xeon\" | \"EPYC\",",
   "  \"model\": model within the family, e.g. \"Gold 6130\", \"E5-2680 v4\", \"7302\",",
   "  \"cores\": core count (number, 1-256) or null,",
   "  \"base_clock_ghz\": base clock in GHz (number, 0.5-6.0) or null,",
   "  \"tdp_watts\": TDP in watts (number, 10-500) or null,",
   "  \"socket\": \"LGA2011-3\", \"LGA3647\", \"SP3\", ... or null,",
   "  \"quantity\": number of processors in the listing (number >= 1, default 1),",
   "  \"condition\": \"new\" | \"like_new\" | \"used_working\" | \"for_parts\" | \"unknown\",",
   "  \"confidence\": your confidence in this extraction (0.0-1.0)",
   "\x7d",
   "",
   "Rules:",
   "- \"Matched pair\" or \"x2\" means quantity 2",
   "- Use null for anything the listing does not state",
   "",
   "Return ONLY valid JSON, no markdown code blocks, no explanations."]

/-- Asks for the attributes of a network card. -/
def networkCard : List Char := joinLines
  ["Extract network card attributes from this listing.",
   "",
   "Title: \x7b\x7btitle\x7d\x7d",
   "Item specifics: \x7b\x7bspecifics\x7d\x7d",
   "",
   "Return a JSON object with these fields:",
   "\x7b",
   "  \"manufacturer\": \"Intel\", \"Mellanox\", \"Broadcom\", \"Chelsio\", ... or null,",
   "  \"model\": model, e.g. \"X520-DA2\", \"ConnectX-4 Lx\", or null,",
   "  \"speed\": \"1GbE\" | \"10GbE\" | \"25GbE\" | \"40GbE\" | \"100GbE\",",
   "  \"port_count\": number of ports (number, 1-8),",
   "  \"port_type\": \"SFP+\" | \"SFP28\" | \"QSFP+\" | \"QSFP28\" | \"RJ45\" | \"BaseT\" | null,",
   "  \"bracket\": \"full\" | \"low\" | null (bracket height),",
   "  \"quantity\": number of cards in the listing (number >= 1, default 1),",
   "  \"condition\": \"new\" | \"like_new\" | \"used_working\" | \"for_parts\" | \"unknown\",",
   "  \"confidence\": your confidence in this extraction (0.0-1.0)",
   "\x7d",
   "",
   "Rules:",
   "- \"Dual port\" means port_count 2, \"quad port\" means 4",
   "- Use null for anything the listing does not state",
   "",
   "Return ONLY valid JSON, no markdown code blocks, no explanations."]

end Templates

/-- The template that asks for the attributes of a category. -/
def template? : Category → Option (List Char)
  | .ram => some Templates.memory
  | .drive => some Templates.drive
  | .server => some Templates.server
  | .cpu => some Templates.processor
  | .nic => some Templates.networkCard
  | .other => none

/-! ## Prompts -/

/-- The message that sets the role of a backend for extractions. -/
def systemMessage : String :=
  "You extract structured attributes from second-hand server hardware listings. "
    ++ "Respond with a single JSON object and nothing else."

/-- The prompt that asks for the category of a title. -/
def classification (title : List Char) : List Char :=
  Template.fill Templates.classification [("title".toList, title)]

/-- The prompt that asks for the attributes of a listing, if its category has a template.  A listing
without a description has an empty one. -/
def extraction? (category : Category) (title : List Char) (specifics : Specifics)
    (description : List Char) : Option (List Char) :=
  (template? category).map fun template =>
    Template.fill template
      [("title".toList, title), ("specifics".toList, specificsText specifics),
       ("description".toList, descriptionText description)]

end Prompt

end ListingAttributes
